import ArrayTypes.Proofs.Assignability.Checks
import ArrayTypes.Proofs.Assignability.Transitivity
import ArrayTypes.Proofs.Hierarchy.OrderLaws

/-! Stores and covariance. An array accepts the values that are assignable to its component,
and two arrays are assignable as their components are. So an array may be seen through another
array's type just if that other array accepts whatever it accepts itself: one direction follows
the store and then the view, and for the other the component is a value that is accepted. -/

namespace ArrayTypes

variable {H : Hierarchy}

/-! ### Types -/

theorem Hierarchy.chains_of_trans
    (htrans : ∀ a b c : String, H.isSubclass a b → H.isSubclass b c → H.isSubclass a c)
    (hclosed : ∀ a b : String, H.isArraySupertype a → H.isSubclass a b → H.isArraySupertype b) :
    H.Chains where
  subclass a b c _ _ _ := htrans a b c
  arraySupertype a b _ := hclosed a b

theorem Hierarchy.admits_iff {s t : TypeLiteral} :
    H.Admits s t ↔ (s.judge t).answer H = true :=
  ⟨Admits.answer_judge, admits_of_answer_judge⟩

/-- Arrays are assignable just as their components are. -/
theorem Hierarchy.admits_succ_iff {e f : Element} {m n : Nat} :
    H.Admits ⟨e, m + 1⟩ ⟨f, n + 1⟩ ↔ H.Admits ⟨e, m⟩ ⟨f, n⟩ := by
  rw [admits_iff, admits_iff, TypeLiteral.judge_succ]

/-- A type that is among those compared is itself assignable to what takes all that is
assignable to it. -/
theorem Hierarchy.Chains.admits_iff_forall (hH : H.Chains) {T : Set TypeLiteral}
    {s t : TypeLiteral} (hs : s ∈ T) :
    H.Admits s t ↔ ∀ u ∈ T, H.Admits u s → H.Admits u t :=
  ⟨fun h _ _ hu => hH.admits_trans hu h, fun h => h s hs (.same s)⟩

theorem Hierarchy.Admits.eq_primitive {kind : Kind} {n : Nat} {t : TypeLiteral}
    (h : H.Admits t ⟨.primitive kind, n⟩) : t = ⟨.primitive kind, n⟩ := by
  cases h with
  | same => rfl

theorem Hierarchy.Admits.eq_of_primitive {kind : Kind} {t : TypeLiteral}
    (h : H.Admits ⟨.primitive kind, 0⟩ t) : t = ⟨.primitive kind, 0⟩ := by
  cases h with
  | same => rfl
  | array _ hlt _ => exact absurd hlt (Nat.not_lt_zero _)

namespace Registry

variable {r : Registry} {a b : Handle}

/-! ### Handles -/

theorem Denotes.owns {h : Handle} {t : TypeLiteral} (ht : r.Denotes h t) : r.Owns h :=
  ht.exists_get

theorem checkStore_eq_ok_iff (hr : r.Consistent) {v : Handle} {e : Element} {n : Nat}
    {t : TypeLiteral} (ha : r.Denotes a ⟨e, n + 1⟩) (hv : r.Denotes v t) :
    r.checkStore H a v = .ok () ↔ H.Admits t ⟨e, n⟩ := by
  rw [checkStore_array hr ha hv, Hierarchy.admits_iff]
  cases (t.judge ⟨e, n⟩).answer H <;> simp

/-- The values that an array accepts, in terms of types. -/
theorem forall_checkStore_iff (hr : r.Consistent) {e f : Element} {m n : Nat}
    (ha : r.Denotes a ⟨e, m + 1⟩) (hb : r.Denotes b ⟨f, n + 1⟩) :
    (∀ v, r.Owns v → r.checkStore H a v = .ok () → r.checkStore H b v = .ok ()) ↔
      ∀ t ∈ r.types, H.Admits t ⟨e, m⟩ → H.Admits t ⟨f, n⟩ := by
  constructor
  · intro h t ht
    obtain ⟨v, hv⟩ := mem_types_iff.1 ht
    have hstore := h v hv.owns
    rwa [checkStore_eq_ok_iff hr ha hv, checkStore_eq_ok_iff hr hb hv] at hstore
  · rintro h v ⟨d, hd⟩
    obtain ⟨t, hv⟩ := hr.exists_denotes hd
    rw [checkStore_eq_ok_iff hr ha hv, checkStore_eq_ok_iff hr hb hv]
    exact h t (mem_types_iff.2 ⟨v, hv⟩)

/-- An array of primitives and another array accept no value in common. -/
theorem eq_of_checkStore_primitive (hr : r.Consistent) {kind : Kind} {f : Element} {n : Nat}
    (ha : r.Denotes a ⟨.primitive kind, 1⟩) (hb : r.Denotes b ⟨f, n + 1⟩) {v : Handle}
    (hv : r.Owns v) (hav : r.checkStore H a v = .ok ()) (hbv : r.checkStore H b v = .ok ()) :
    a = b := by
  obtain ⟨d, hd⟩ := hv
  obtain ⟨t, ht⟩ := hr.exists_denotes hd
  rw [checkStore_eq_ok_iff hr ha ht] at hav
  rw [checkStore_eq_ok_iff hr hb ht] at hbv
  have hvalue : t = ⟨.primitive kind, 0⟩ := hav.eq_primitive
  have hcomponent : (⟨f, n⟩ : TypeLiteral) = ⟨.primitive kind, 0⟩ := (hvalue ▸ hbv).eq_of_primitive
  cases hcomponent
  exact ha.injective hr hb

/-- Under a hierarchy that chains, an array is assignable to another just if every value that
it accepts is accepted by the other. An array of primitives shares no value with any other. -/
theorem assignable_iff_accepts_stores (hr : r.Reachable)
    (htrans : ∀ a b c : String, H.isSubclass a b → H.isSubclass b c → H.isSubclass a c)
    (hclosed : ∀ a b : String, H.isArraySupertype a → H.isSubclass a b → H.isArraySupertype b)
    {d d' : Descriptor} (ha : r.get a = .ok d) (hda : d.isArray) (hb : r.get b = .ok d')
    (hdb : d'.isArray) :
    (∃ answer, r.isAssignable H a b = .ok answer) ∧
    (r.isAssignable H a b = .ok true ↔
      ∀ v, r.Owns v → r.checkStore H a v = .ok () → r.checkStore H b v = .ok ()) ∧
    ∀ c kind, d.component? = some c → r.get c = .ok (.primitive kind) → a ≠ b →
      ∀ v, r.Owns v → r.checkStore H a v = .ok () → r.checkStore H b v ≠ .ok () := by
  have hc := hr.consistent
  have hH : H.Chains := Hierarchy.chains_of_trans htrans hclosed
  obtain ⟨e, m, hat⟩ := hc.exists_denotes_array ha hda
  obtain ⟨f, n, hbt⟩ := hc.exists_denotes_array hb hdb
  refine ⟨⟨_, isAssignable_eq hc hat hbt⟩, ?_, ?_⟩
  · calc
      r.isAssignable H a b = .ok true ↔ H.Admits ⟨e, m + 1⟩ ⟨f, n + 1⟩ :=
        isAssignable_eq_true_iff hc hat hbt
      _ ↔ H.Admits ⟨e, m⟩ ⟨f, n⟩ := Hierarchy.admits_succ_iff
      _ ↔ ∀ t ∈ r.types, H.Admits t ⟨e, m⟩ → H.Admits t ⟨f, n⟩ :=
        hH.admits_iff_forall hat.component_mem_types
      _ ↔ _ := (forall_checkStore_iff hc hat hbt).symm
  · intro c kind hcomponent hprimitive hne v hv hav hbv
    have hprim : r.Denotes a ⟨.primitive kind, 1⟩ := by
      cases d <;> cases hcomponent
      exact .array ha (.primitive hprimitive)
    exact hne (eq_of_checkStore_primitive hc hprim hbt hv hav hbv)

/-- Seen as an array of animals, an array of dogs still accepts nothing but what animals take. -/
theorem dog_stores_pass_as_animal_stores :
    let classes := ClassHierarchy.empty.declare "Dog" ["Animal"]
    let r := (fresh 0 { preload := false }).after
      ((fresh 0 { preload := false }).perform (.resolve ⟨.reference "Dog", 1⟩))
    let r' := r.after (r.perform (.resolve ⟨.reference "Animal", 1⟩))
    r'.Reachable ∧
    (∀ a b c : String, classes.hierarchy.isSubclass a b → classes.hierarchy.isSubclass b c →
      classes.hierarchy.isSubclass a c) ∧
    (∀ a b : String, classes.hierarchy.isArraySupertype a → classes.hierarchy.isSubclass a b →
      classes.hierarchy.isArraySupertype b) ∧
    r'.denotation ⟨0, 9⟩ = .ok ⟨.reference "Dog", 1⟩ ∧
    r'.denotation ⟨0, 11⟩ = .ok ⟨.reference "Animal", 1⟩ ∧
    r'.isAssignable classes.hierarchy ⟨0, 9⟩ ⟨0, 11⟩ = .ok true ∧
    (∀ v, r'.Owns v → r'.checkStore classes.hierarchy ⟨0, 9⟩ v = .ok () →
      r'.checkStore classes.hierarchy ⟨0, 11⟩ v = .ok ()) ∧
    r'.checkStore classes.hierarchy ⟨0, 11⟩ ⟨0, 10⟩ = .ok () ∧
    r'.checkStore classes.hierarchy ⟨0, 9⟩ ⟨0, 10⟩ = .error (.arrayStore "Animal" "Dog") := by
  intro classes r r'
  have hr : r'.Reachable := .call (.call (.fresh 0 _) _) _
  have hkeeps : classes.KeepsArraySupertypes := ⟨by decide, by decide, by decide⟩
  have htrans : ∀ a b c : String, classes.hierarchy.isSubclass a b →
      classes.hierarchy.isSubclass b c → classes.hierarchy.isSubclass a c :=
    fun _ _ _ => ClassHierarchy.isSubclass_trans_of_object hkeeps.object
  have hclosed : ∀ a b : String, classes.hierarchy.isArraySupertype a →
      classes.hierarchy.isSubclass a b → classes.hierarchy.isArraySupertype b := by
    intro a b ha hab
    by_cases h : a = b
    · exact h ▸ ha
    · exact hkeeps.chains.arraySupertype a b h ha hab
  have hdogs : r'.denotation ⟨0, 9⟩ = .ok ⟨.reference "Dog", 1⟩ :=
    denotation_eq_ok_iff.2 (.array rfl (.reference rfl))
  have hanimals : r'.denotation ⟨0, 11⟩ = .ok ⟨.reference "Animal", 1⟩ :=
    denotation_eq_ok_iff.2 (.array rfl (.reference rfl))
  have hanswer : r'.isAssignable classes.hierarchy ⟨0, 9⟩ ⟨0, 11⟩ = .ok true := by cbv
  obtain ⟨-, hiff, -⟩ := assignable_iff_accepts_stores hr htrans hclosed
    (a := ⟨0, 9⟩) (b := ⟨0, 11⟩) rfl rfl rfl rfl
  exact ⟨hr, htrans, hclosed, hdogs, hanimals, hanswer, hiff.1 hanswer, by cbv, by cbv⟩

end Registry

end ArrayTypes
