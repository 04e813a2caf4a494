import ArrayTypes.Proofs.Registry.Denotation
import ArrayTypes.Proofs.TypeLiteral.Names

/-! Descriptors by their names. A descriptor bears the names of the type that it stands for,
however the registry came by it, and resolving that type finds it in the memos. So a name
that can be read leads back to its descriptor, whatever else bears it. -/

namespace ArrayTypes

/-- The names of the descriptor are those of the type. -/
structure Descriptor.Bears (d : Descriptor) (t : TypeLiteral) : Prop where
  name_eq : d.name = t.display
  binaryName_eq : d.binaryName = t.binaryName
  elementCode_eq : d.elementCode = t.element.bracketedCode t.dimensions

namespace Registry

variable {r : Registry}

/-! ### The names of a handle -/

theorem bears_primitive (kind : Kind) : (Descriptor.primitive kind).Bears ⟨.primitive kind, 0⟩ :=
  ⟨String.append_empty.symm, rfl, (Element.code_primitive kind).symm⟩

theorem bears_reference (name : String) : (Descriptor.reference name).Bears ⟨.reference name, 0⟩ :=
  ⟨String.append_empty.symm, rfl, rfl⟩

/-- An array's names are built from its component's. -/
theorem bears_arrayOf {d : Descriptor} {e : Element} {n : Nat} (hd : d.Bears ⟨e, n⟩)
    (c : Handle) : (d.arrayOf c).Bears ⟨e, n + 1⟩ where
  name_eq := by
    change d.name ++ "[]" = e.display ++ (TypeLiteral.brackets n ++ "[]")
    rw [hd.name_eq, TypeLiteral.display, String.append_assoc]
  binaryName_eq := congrArg ("[" ++ ·) hd.elementCode_eq
  elementCode_eq := congrArg ("[" ++ ·) hd.elementCode_eq

theorem Denotes.exists_bears (hr : r.Consistent) {h : Handle} {t : TypeLiteral}
    (ht : r.Denotes h t) : ∃ d, r.get h = .ok d ∧ d.Bears t := by
  induction ht with
  | primitive hd => exact ⟨_, hd, bears_primitive _⟩
  | reference hd => exact ⟨_, hd, bears_reference _⟩
  | @array h c name bin e n hd _ ih =>
    obtain ⟨d, hc, hb⟩ := ih
    obtain ⟨d', hc', harray⟩ := hr.eq_arrayOf hd rfl
    cases hc.symm.trans hc'
    exact ⟨_, hd, harray ▸ bears_arrayOf hb c⟩

theorem Denotes.name_eq (hr : r.Consistent) {h : Handle} {t : TypeLiteral}
    (ht : r.Denotes h t) : r.name h = .ok t.display := by
  obtain ⟨d, hd, hb⟩ := ht.exists_bears hr
  rw [name, hd, ← hb.name_eq]
  rfl

theorem Denotes.binaryName_eq (hr : r.Consistent) {h : Handle} {t : TypeLiteral}
    (ht : r.Denotes h t) : r.binaryName h = .ok t.binaryName := by
  obtain ⟨d, hd, hb⟩ := ht.exists_bears hr
  rw [binaryName, hd, ← hb.binaryName_eq]
  rfl

/-! ### Resolving a type that is there -/

theorem withDimensions_succ (r : Registry) (e : Handle) (n : Nat) :
    r.withDimensions e (n + 1) = r.arrayOf e >>= fun p => p.2.withDimensions p.1 n := by
  rw [withDimensions]
  cases r.arrayOf e <;> rfl

/-- The outermost level is made last. -/
theorem withDimensions_succ_eq_bind (r : Registry) (e : Handle) (n : Nat) :
    r.withDimensions e (n + 1) = r.withDimensions e n >>= fun p => p.2.arrayOf p.1 := by
  induction n generalizing r e with
  | zero =>
    rw [withDimensions_succ]
    change (r.arrayOf e >>= fun p => .ok (p.1, p.2)) = r.arrayOf e
    cases r.arrayOf e <;> rfl
  | succ n ih =>
    rw [withDimensions_succ, withDimensions_succ r e n, bind_assoc]
    simp only [ih]

/-- The memos know every level between two handles that are there. -/
theorem Denotes.withDimensions_eq (hr : r.Consistent) {g h : Handle} {e : Element} {m n : Nat}
    (hg : r.Denotes g ⟨e, m⟩) (hh : r.Denotes h ⟨e, m + n⟩) :
    r.withDimensions g n = .ok (h, r) := by
  induction n generalizing h with
  | zero =>
    cases hg.injective hr hh
    rfl
  | succ n ih =>
    cases hh with
    | array hd hc =>
      rw [withDimensions_succ_eq_bind, ih hc]
      exact obtain_of_lookup? (hr.lookup?_arrayOf_iff.2 ⟨_, _, hd⟩)

theorem Denotes.element_eq (hr : r.Consistent) {h : Handle} {e : Element}
    (ht : r.Denotes h ⟨e, 0⟩) : r.element e = (h, r) := by
  cases ht with
  | primitive hd => rw [hr.eq_primitive hd, element]
  | reference hd =>
    have hobtain := obtain_of_lookup? (hr.lookup?_reference_iff.2 hd)
    exact Except.ok.inj hobtain

/-- The memos know every part of a type that has a handle. -/
theorem Denotes.resolve_eq (hr : r.Consistent) {h : Handle} {t : TypeLiteral}
    (ht : r.Denotes h t) : r.resolve t = .ok (h, r) := by
  obtain ⟨b, -, hb⟩ := ht.unwrap
  have hlevels : r.Denotes h ⟨t.element, 0 + t.dimensions⟩ := by rwa [Nat.zero_add]
  rw [resolve, hb.element_eq hr]
  exact hb.withDimensions_eq hr hlevels

/-! ### Back from the names -/

/-- The display name of a type that can be told by its name leads back to the handle, and
nothing is created for it. No two such handles share a display name or a binary name, even
where classes are called like arrays or primitives. -/
theorem forName_name (hr : r.Reachable) :
    (∀ (h : Handle) (t : TypeLiteral), r.denotation h = .ok t → t.element.Spellable →
      ∃ name bin, r.name h = .ok name ∧ r.binaryName h = .ok bin ∧
        r.forName name = .ok (h, r)) ∧
    ∀ (g h : Handle) (t u : TypeLiteral), r.denotation g = .ok t → r.denotation h = .ok u →
      t.element.Spellable → u.element.Spellable →
      (g = h ↔ r.name g = r.name h) ∧ (g = h ↔ r.binaryName g = r.binaryName h) := by
  have hc := hr.consistent
  constructor
  · intro h t hh ht
    have hd := denotation_eq_ok_iff.1 hh
    refine ⟨t.display, t.binaryName, hd.name_eq hc, hd.binaryName_eq hc, ?_⟩
    rw [forName, TypeLiteral.parse_display ht]
    exact hd.resolve_eq hc
  · intro g h t u hg hh ht hu
    have hdg := denotation_eq_ok_iff.1 hg
    have hdh := denotation_eq_ok_iff.1 hh
    rw [hdg.eq_iff hc hdh, hdg.name_eq hc, hdh.name_eq hc, hdg.binaryName_eq hc,
      hdh.binaryName_eq hc]
    constructor
    · exact ⟨fun h => h ▸ rfl, fun h => TypeLiteral.display_injective ht hu (Except.ok.inj h)⟩
    · exact ⟨fun h => h ▸ rfl, fun h => TypeLiteral.binaryName_injective ht hu (Except.ok.inj h)⟩

/-- A class called `int[]` is there first, and the name still leads to the array of `int`. -/
theorem int_array_beside_its_namesake :
    let r := (fresh 0 { preload := false }).after
      ((fresh 0 { preload := false }).perform (.reference "int[]"))
    let r₁ := r.after (r.perform (.primitiveArray .int))
    let r₂ := r₁.after (r₁.perform (.reference "a.B"))
    r₂.Reachable ∧ r₂.name ⟨0, 8⟩ = .ok "int[]" ∧
    r₂.denotation ⟨0, 9⟩ = .ok ⟨.primitive .int, 1⟩ ∧ r₂.name ⟨0, 9⟩ = .ok "int[]" ∧
    r₂.forName "int[]" = .ok (⟨0, 9⟩, r₂) ∧
    r₂.denotation ⟨0, 10⟩ = .ok ⟨.reference "a.B", 0⟩ ∧
    r₂.forName "a.B" = .ok (⟨0, 10⟩, r₂) ∧
    r₂.binaryName ⟨0, 9⟩ ≠ r₂.binaryName ⟨0, 10⟩ := by
  intro r r₁ r₂
  have hr : r₂.Reachable := .call (.call (.call (.fresh 0 _) _) _) _
  have harray : r₂.denotation ⟨0, 9⟩ = .ok ⟨.primitive .int, 1⟩ :=
    denotation_eq_ok_iff.2 (.array rfl (.primitive rfl))
  have hclass : r₂.denotation ⟨0, 10⟩ = .ok ⟨.reference "a.B", 0⟩ :=
    denotation_eq_ok_iff.2 (.reference rfl)
  have hint : (Element.primitive .int).Spellable := .primitive .int
  have hab : (Element.reference "a.B").Spellable := by
    refine .reference ⟨['a'], [['B']], ?_, rfl⟩ ?_
    · rw [List.forall_mem_cons, List.forall_mem_singleton]
      exact ⟨TypeLiteral.isIdentifier_cons rfl rfl, TypeLiteral.isIdentifier_cons rfl rfl⟩
    · intro kind
      cases kind <;> decide
  obtain ⟨back, apart⟩ := forName_name hr
  obtain ⟨name, bin, hname, -, hback⟩ := back _ _ harray hint
  obtain ⟨name', bin', hname', -, hback'⟩ := back _ _ hclass hab
  cases hname
  cases hname'
  exact ⟨hr, rfl, harray, rfl, hback, hclass, hback',
    mt (apart _ _ _ _ harray hclass hint hab).2.2 (by decide)⟩

end Registry

end ArrayTypes
