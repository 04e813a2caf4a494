import ArrayTypes.Call
import ArrayTypes.Proofs.Registry.Naming

/-! What the queries answer. Every query about a handle that stands for a type has an answer,
and the answer can be read off the type: the chain of components is as long as the type has
levels, and ends at the type's element. -/

namespace ArrayTypes

/-- The value is the zero of the kind: for truth values that is false, for characters the first
of them, and for floating-point values the word without a bit set. -/
inductive Value.IsZeroOf : Kind → Value → Prop
  | boolean : IsZeroOf .boolean (.boolean false)
  | char : IsZeroOf .char (.char 0)
  | byte : IsZeroOf .byte (.byte 0)
  | short : IsZeroOf .short (.short 0)
  | int : IsZeroOf .int (.int 0)
  | long : IsZeroOf .long (.long 0)
  | float : IsZeroOf .float (.float 0)
  | double : IsZeroOf .double (.double 0)

theorem Value.isZeroOf_zero (kind : Kind) : (zero kind).IsZeroOf kind := by
  cases kind <;> constructor

/-- What a slot holds whose type is the element. -/
def Element.initial : Element → Value
  | .primitive kind => .zero kind
  | .reference _ => .null

def TypeLiteral.isPrimitive (t : TypeLiteral) : Bool :=
  match t with
  | ⟨.primitive _, 0⟩ => true
  | _ => false

/-- What a slot of an array of the type holds; nothing if the type is no array's. -/
def TypeLiteral.slot (t : TypeLiteral) : Option Value :=
  match t.dimensions with
  | 0 => none
  | 1 => some t.element.initial
  | _ => some .null

theorem TypeLiteral.slot_eq_none_iff {t : TypeLiteral} : t.slot = none ↔ t.dimensions = 0 := by
  unfold slot
  split <;> simp_all

theorem TypeLiteral.slot_of_two_le {t : TypeLiteral} (h : 2 ≤ t.dimensions) :
    t.slot = some .null := by
  unfold slot
  split
  · omega
  · omega
  · rfl

namespace Registry.Denotes

variable {r : Registry} {h : Handle} {t : TypeLiteral} {e : Element} {n : Nat}

/-! ### One link of the chain -/

theorem componentType_zero (ht : r.Denotes h ⟨e, 0⟩) : r.componentType h = .ok none := by
  cases ht with
  | primitive hd | reference hd => exact bind_eq_ok_iff.2 ⟨_, hd, rfl⟩

theorem exists_componentType (ht : r.Denotes h ⟨e, n + 1⟩) :
    ∃ c, r.componentType h = .ok (some c) ∧ r.Denotes c ⟨e, n⟩ := by
  cases ht with
  | array hd hc => exact ⟨_, bind_eq_ok_iff.2 ⟨_, hd, rfl⟩, hc⟩

theorem isArray_eq (ht : r.Denotes h t) {d : Descriptor} (hd : r.get h = .ok d) :
    d.isArray = decide (0 < t.dimensions) := by
  cases ht with
  | primitive hd' | reference hd' =>
    cases hd.symm.trans hd'
    rfl
  | @array _ _ _ _ _ n hd' =>
    cases hd.symm.trans hd'
    exact (decide_eq_true n.succ_pos).symm

/-- The component of an array is one of the types that the registry has. -/
theorem component_mem_types (ht : r.Denotes h ⟨e, n + 1⟩) : ⟨e, n⟩ ∈ r.types := by
  obtain ⟨c, -, hc⟩ := ht.exists_componentType
  exact mem_types_iff.2 ⟨c, hc⟩

theorem isPrimitive_eq (ht : r.Denotes h t) {d : Descriptor} (hd : r.get h = .ok d) :
    d.isPrimitive = t.isPrimitive := by
  cases ht with
  | primitive hd' | reference hd' =>
    cases hd.symm.trans hd'
    rfl
  | @array _ _ _ _ e _ hd' =>
    cases hd.symm.trans hd'
    cases e <;> rfl

theorem scalarDefault_zero (ht : r.Denotes h ⟨e, 0⟩) {d : Descriptor} (hd : r.get h = .ok d) :
    scalarDefault d = e.initial := by
  cases ht with
  | primitive hd' | reference hd' =>
    cases hd.symm.trans hd'
    rfl

theorem scalarDefault_succ (ht : r.Denotes h ⟨e, n + 1⟩) {d : Descriptor}
    (hd : r.get h = .ok d) : scalarDefault d = .null := by
  cases ht with
  | array hd' =>
    cases hd.symm.trans hd'
    rfl

/-! ### The whole chain -/

theorem dimensions_eq (ht : r.Denotes h t) : r.dimensions h = .ok t.dimensions := by
  obtain ⟨b, hu, -⟩ := ht.unwrap
  exact bind_eq_ok_iff.2 ⟨_, hu, rfl⟩

theorem exists_elementType (ht : r.Denotes h t) :
    ∃ b, r.elementType h = .ok b ∧ r.Denotes b ⟨t.element, 0⟩ := by
  obtain ⟨b, hu, hb⟩ := ht.unwrap
  exact ⟨b, bind_eq_ok_iff.2 ⟨_, hu, rfl⟩, hb⟩

/-- The levels make no difference. -/
theorem defaultValue_eq (ht : r.Denotes h t) : r.defaultValue h = .ok t.element.initial := by
  obtain ⟨b, hb, hbt⟩ := ht.exists_elementType
  obtain ⟨d, hd⟩ := hbt.exists_get
  rw [← hbt.scalarDefault_zero hd]
  exact bind_eq_ok_iff.2 ⟨b, hb, bind_eq_ok_iff.2 ⟨d, hd, rfl⟩⟩

/-- Only the innermost level has slots for the values of its element. -/
theorem slotDefault_eq (ht : r.Denotes h t) : r.slotDefault h = .ok t.slot := by
  obtain ⟨e, n⟩ := t
  cases n with
  | zero => exact bind_eq_ok_iff.2 ⟨none, ht.componentType_zero, rfl⟩
  | succ n =>
    obtain ⟨c, hc, hct⟩ := ht.exists_componentType
    obtain ⟨d, hd⟩ := hct.exists_get
    refine bind_eq_ok_iff.2 ⟨some c, hc, bind_eq_ok_iff.2 ⟨d, hd, ?_⟩⟩
    cases n with
    | zero => rw [hct.scalarDefault_zero hd]; rfl
    | succ n => rw [hct.scalarDefault_succ hd]; rfl

/-- No query fails on a handle that stands for a type. -/
theorem exists_inspect (hr : r.Consistent) (ht : r.Denotes h t) (query : Query) :
    ∃ a, r.inspect h query = .ok a := by
  obtain ⟨d, hd⟩ := ht.exists_get
  cases query with
  | descriptor | isArray | isPrimitive => exact ⟨_, map_eq_ok_iff.2 ⟨d, hd, rfl⟩⟩
  | name => exact ⟨_, map_eq_ok_iff.2 ⟨_, ht.name_eq hr, rfl⟩⟩
  | binaryName => exact ⟨_, map_eq_ok_iff.2 ⟨_, ht.binaryName_eq hr, rfl⟩⟩
  | component => exact ⟨_, map_eq_ok_iff.2 ⟨_, bind_eq_ok_iff.2 ⟨d, hd, rfl⟩, rfl⟩⟩
  | element =>
    obtain ⟨b, hb, -⟩ := ht.exists_elementType
    exact ⟨_, map_eq_ok_iff.2 ⟨b, hb, rfl⟩⟩
  | dimensions => exact ⟨_, map_eq_ok_iff.2 ⟨_, ht.dimensions_eq, rfl⟩⟩
  | defaultValue => exact ⟨_, map_eq_ok_iff.2 ⟨_, ht.defaultValue_eq, rfl⟩⟩
  | slotDefault => exact ⟨_, map_eq_ok_iff.2 ⟨_, ht.slotDefault_eq, rfl⟩⟩

end Registry.Denotes

/-- An array's handle stands for a type with a level. -/
theorem Registry.Consistent.exists_denotes_array {r : Registry} (hr : r.Consistent) {a : Handle}
    {d : Descriptor} (hd : r.get a = .ok d) (hda : d.isArray) :
    ∃ e n, r.Denotes a ⟨e, n + 1⟩ := by
  obtain ⟨⟨e, n⟩, ht⟩ := hr.exists_denotes hd
  have hpos : 0 < n := by
    rw [ht.isArray_eq hd] at hda
    exact of_decide_eq_true hda
  obtain ⟨n, rfl⟩ := Nat.exists_eq_succ_of_ne_zero hpos.ne'
  exact ⟨e, n, ht⟩

/-! ### Defaults -/

/-- The default of a handle is that of the element at the bottom of its chain, and more levels
leave it as it is. A slot holds it only where the element is one link away: slots of arrays of
arrays are null, also where the element is a number. -/
theorem Registry.defaults_by_element {r : Registry} (hr : r.Reachable) {h : Handle}
    {d : Descriptor} (hd : r.get h = .ok d) :
    ∃ e n v, r.Denotes h ⟨e, n⟩ ∧ r.defaultValue h = .ok v ∧
      (∀ kind, e = .primitive kind → v.IsZeroOf kind) ∧
      (∀ name, e = .reference name → v = .null) ∧
      (r.slotDefault h = .ok none ↔ n = 0) ∧
      (n = 1 → r.slotDefault h = .ok (some v)) ∧
      (2 ≤ n → r.slotDefault h = .ok (some .null)) ∧
      ∀ m, ∃ g s, r.withDimensions h m = .ok (g, s) ∧ s.Denotes g ⟨e, n + m⟩ ∧
        s.defaultValue g = .ok v := by
  have hc := hr.consistent
  obtain ⟨⟨e, n⟩, ht⟩ := hc.exists_denotes hd
  refine ⟨e, n, e.initial, ht, ht.defaultValue_eq, ?_, ?_, ?_, ?_, ?_, fun m => ?_⟩
  · rintro kind rfl
    exact Value.isZeroOf_zero kind
  · rintro name rfl
    rfl
  · rw [ht.slotDefault_eq, Except.ok.injEq, TypeLiteral.slot_eq_none_iff]
  · rintro rfl
    exact ht.slotDefault_eq
  · intro hn
    rw [ht.slotDefault_eq, TypeLiteral.slot_of_two_le hn]
  · obtain ⟨g, s, hg, hgt⟩ := exists_withDimensions hc ht m
    exact ⟨g, s, hg, hgt, hgt.defaultValue_eq⟩

/-- An array of arrays of integers and the array below it. Two more levels are created. -/
theorem Registry.int_arrays_default_to_zero :
    let r := (fresh 0 { preload := false }).after
      ((fresh 0 { preload := false }).perform (.resolve ⟨.primitive .int, 2⟩))
    r.Reachable ∧ r.get ⟨0, 9⟩ = .ok (.array ⟨0, 8⟩ "int[][]" "[[I") ∧
    r.defaultValue ⟨0, 9⟩ = .ok (.int 0) ∧ r.slotDefault ⟨0, 9⟩ = .ok (some .null) ∧
    r.defaultValue ⟨0, 8⟩ = .ok (.int 0) ∧ r.slotDefault ⟨0, 8⟩ = .ok (some (.int 0)) ∧
    ∃ s, r.withDimensions ⟨0, 9⟩ 2 = .ok (⟨0, 11⟩, s) ∧ s.defaultValue ⟨0, 11⟩ = .ok (.int 0) := by
  intro r
  have hr : r.Reachable := .call (.fresh 0 _) _
  have hget : r.get ⟨0, 9⟩ = .ok (.array ⟨0, 8⟩ "int[][]" "[[I") := rfl
  have hrow : r.Denotes ⟨0, 8⟩ ⟨.primitive .int, 1⟩ := .array rfl (.primitive rfl)
  have htable : r.Denotes ⟨0, 9⟩ ⟨.primitive .int, 2⟩ := .array rfl hrow
  obtain ⟨e, n, v, ht, hv, hzero, -, -, -, hnull, hmore⟩ := defaults_by_element hr hget
  cases htable.unique ht
  cases hzero .int rfl
  obtain ⟨e', n', v', ht', hv', hzero', -, -, hslot, -, -⟩ :=
    defaults_by_element hr (h := ⟨0, 8⟩) (d := .array ⟨0, 4⟩ "int[]" "[I") rfl
  cases hrow.unique ht'
  cases hzero' .int rfl
  obtain ⟨g, s, hg, -, hdefault⟩ := hmore 2
  cases hg
  exact ⟨hr, hget, hv, hnull (Nat.le_refl 2), hv', hslot rfl, _, rfl, hdefault⟩

end ArrayTypes
