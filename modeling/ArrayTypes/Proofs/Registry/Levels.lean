import ArrayTypes.Proofs.Registry.Queries

/-! Array levels. Each level adds a pair of brackets to the display name and a bracket to the
binary name, which ends in the code of the element and is told from every other array's,
whatever the classes are called. Levels that are taken off one by one come to an end at the
element, and when they are put on again nothing is created, since the memos know them all. -/

namespace ArrayTypes.Registry

/-- The handle `n` components below; none if the chain is too short for that. -/
def descend (r : Registry) (h : Handle) : Nat → Except Failure (Option Handle)
  | 0 => .ok (some h)
  | n + 1 => do
    match ← r.componentType h with
    | none => return none
    | some c => r.descend c n

variable {r r' : Registry} {h g : Handle} {e : Element} {m n : Nat}

/-! ### Names by levels -/

namespace Denotes

theorem name_eq_join (hr : r.Consistent) (ht : r.Denotes h ⟨e, n⟩) :
    r.name h = .ok (e.display ++ String.join (List.replicate n "[]")) := by
  rw [ht.name_eq hr, TypeLiteral.display, TypeLiteral.brackets_eq_join]

theorem eq_of_binaryName_eq (hr : r.Consistent) {f : Element}
    (hg : r.Denotes g ⟨e, m + 1⟩) (hh : r.Denotes h ⟨f, n + 1⟩)
    (hbin : r.binaryName g = r.binaryName h) : g = h := by
  rw [hg.binaryName_eq hr, hh.binaryName_eq hr, Except.ok.injEq] at hbin
  obtain ⟨rfl, hlevels⟩ := Element.bracketedCode_injective hbin
  exact (hg.eq_iff hr hh).2 (by rw [hlevels])

end Denotes

/-- The names of a handle can be read off the type that it stands for, and two arrays that
share a binary name are one, even if classes are called like the codes of arrays. -/
theorem names_by_levels (hr : r.Reachable) :
    (∀ h d, r.get h = .ok d → ∃ e n, r.denotation h = .ok ⟨e, n⟩ ∧
      r.name h = .ok (e.display ++ String.join (List.replicate n "[]")) ∧
      r.binaryName h = .ok (if n = 0 then e.display
        else String.ofList (List.replicate n '[') ++ e.code)) ∧
    ∀ g h d d', r.get g = .ok d → r.get h = .ok d' → d.isArray → d'.isArray →
      r.binaryName g = r.binaryName h → g = h := by
  have hc := hr.consistent
  constructor
  · intro h d hd
    obtain ⟨⟨e, n⟩, ht⟩ := hc.exists_denotes hd
    refine ⟨e, n, denotation_eq_ok_iff.2 ht, ht.name_eq_join hc, ?_⟩
    rw [ht.binaryName_eq hc, TypeLiteral.binaryName_eq]
    split
    next hn =>
      cases hn
      exact congrArg Except.ok String.append_empty
    · rfl
  · intro g h d d' hd hd' hg hh hbin
    obtain ⟨e, m, hgt⟩ := hc.exists_denotes_array hd hg
    obtain ⟨f, n, hht⟩ := hc.exists_denotes_array hd' hh
    exact hgt.eq_of_binaryName_eq hc hht hbin

/-- The class `[I` bears the binary name of the array of `int`, but its own arrays do not. -/
theorem int_array_beside_its_code :
    let r := (fresh 0 { preload := false }).after
      ((fresh 0 { preload := false }).perform (.primitiveArray .int))
    let r₁ := r.after (r.perform (.resolve ⟨.reference "[I", 1⟩))
    r₁.Reachable ∧ r₁.denotation ⟨0, 8⟩ = .ok ⟨.primitive .int, 1⟩ ∧
    r₁.denotation ⟨0, 9⟩ = .ok ⟨.reference "[I", 0⟩ ∧
    r₁.denotation ⟨0, 10⟩ = .ok ⟨.reference "[I", 1⟩ ∧
    r₁.binaryName ⟨0, 8⟩ = .ok "[I" ∧ r₁.binaryName ⟨0, 9⟩ = .ok "[I" ∧
    r₁.binaryName ⟨0, 10⟩ = .ok "[L[I;" ∧ r₁.name ⟨0, 10⟩ = .ok "[I[]" ∧
    r₁.binaryName ⟨0, 8⟩ ≠ r₁.binaryName ⟨0, 10⟩ := by
  intro r r₁
  have hr : r₁.Reachable := .call (.call (.fresh 0 _) _) _
  have hints : r₁.denotation ⟨0, 8⟩ = .ok ⟨.primitive .int, 1⟩ :=
    denotation_eq_ok_iff.2 (.array rfl (.primitive rfl))
  have hclass : r₁.denotation ⟨0, 9⟩ = .ok ⟨.reference "[I", 0⟩ :=
    denotation_eq_ok_iff.2 (.reference rfl)
  have harray : r₁.denotation ⟨0, 10⟩ = .ok ⟨.reference "[I", 1⟩ :=
    denotation_eq_ok_iff.2 (.array rfl (.reference rfl))
  obtain ⟨names, arrays⟩ := names_by_levels hr
  obtain ⟨e, n, ht, hname, hbin⟩ := names ⟨0, 10⟩ _ rfl
  cases harray.symm.trans ht
  refine ⟨hr, hints, hclass, harray, rfl, rfl, hbin, hname, fun h => ?_⟩
  cases arrays ⟨0, 8⟩ ⟨0, 10⟩ _ _ rfl rfl rfl rfl h

/-! ### Levels off and on -/

/-- Levels put on in two goes are as many put on at once. -/
theorem withDimensions_add (r : Registry) (h : Handle) (m n : Nat) :
    r.withDimensions h (m + n) =
      r.withDimensions h m >>= fun p => p.2.withDimensions p.1 n := by
  induction m generalizing r h with
  | zero =>
    rw [Nat.zero_add]
    rfl
  | succ m ih =>
    rw [Nat.succ_add, withDimensions_succ, withDimensions_succ r h m, bind_assoc]
    simp only [ih]

namespace Denotes

theorem isArray_zero (ht : r.Denotes h ⟨e, 0⟩) : ∃ d, r.get h = .ok d ∧ d.isArray = false := by
  obtain ⟨d, hd⟩ := ht.exists_get
  exact ⟨d, hd, ht.isArray_eq hd⟩

/-- Each link of the chain takes off one level. -/
theorem exists_descend (ht : r.Denotes h ⟨e, m + n⟩) :
    ∃ b, r.descend h n = .ok (some b) ∧ r.Denotes b ⟨e, m⟩ := by
  induction n generalizing h with
  | zero => exact ⟨h, rfl, ht⟩
  | succ n ih =>
    obtain ⟨c, hc, hct⟩ := exists_componentType (n := m + n) ht
    obtain ⟨b, hb, hbt⟩ := ih hct
    exact ⟨b, bind_eq_ok_iff.2 ⟨some c, hc, hb⟩, hbt⟩

theorem descend_eq (hr : r.Consistent) (hg : r.Denotes g ⟨e, m⟩) (hh : r.Denotes h ⟨e, m + n⟩) :
    r.descend h n = .ok (some g) := by
  obtain ⟨b, hb, hbt⟩ := hh.exists_descend
  rw [hb, hbt.injective hr hg]

end Denotes

/-- The chain of components ends at a handle of no array, and as many levels put on that handle
lead back to the start without a creation. Levels put on any handle are counted beside its own
and come off again, and put on in two goes they are the same as put on at once. -/
theorem takes_apart_and_rebuilds (hr : r.Reachable) {d : Descriptor} (hd : r.get h = .ok d) :
    ∃ b k, r.elementType h = .ok b ∧ r.dimensions h = .ok k ∧
      (∃ bottom, r.get b = .ok bottom ∧ bottom.isArray = false) ∧
      r.descend h k = .ok (some b) ∧ r.withDimensions b k = .ok (h, r) ∧
      ∀ m, ∃ g s, r.withDimensions h m = .ok (g, s) ∧ s.dimensions g = .ok (k + m) ∧
        s.elementType g = .ok b ∧ s.descend g m = .ok (some h) ∧
        ∀ n, ∃ g' s', s.withDimensions g n = .ok (g', s') ∧
          r.withDimensions h (m + n) = .ok (g', s') ∧
          s'.withDimensions h (m + n) = .ok (g', s') := by
  have hc := hr.consistent
  obtain ⟨⟨e, k⟩, ht⟩ := hc.exists_denotes hd
  obtain ⟨b, hb, hbt⟩ := ht.exists_elementType
  have hlevels : r.Denotes h ⟨e, 0 + k⟩ := by rwa [Nat.zero_add]
  refine ⟨b, k, hb, ht.dimensions_eq, hbt.isArray_zero, hbt.descend_eq hc hlevels,
    hbt.withDimensions_eq hc hlevels, fun m => ?_⟩
  obtain ⟨g, s, hg, hgt⟩ := exists_withDimensions hc ht m
  have hgrows : r.Grows s := grows_of_withDimensions hg
  have hs : s.Consistent := hc.of_grows hgrows
  obtain ⟨b', hb', hbt'⟩ := hgt.exists_elementType
  cases hbt'.injective hs (hbt.grows hgrows)
  refine ⟨g, s, hg, hgt.dimensions_eq, hb', (ht.grows hgrows).descend_eq hs hgt, fun n => ?_⟩
  obtain ⟨g', s', hg', hgt'⟩ := exists_withDimensions hs hgt n
  have hgrows' : s.Grows s' := grows_of_withDimensions hg'
  rw [Nat.add_assoc] at hgt'
  refine ⟨g', s', hg', ?_, ?_⟩
  · rw [withDimensions_add, hg]
    exact hg'
  · exact ((ht.grows hgrows).grows hgrows').withDimensions_eq (hs.of_grows hgrows') hgt'

/-- An array of dogs with an array of its own already. Of two more levels one is created. -/
theorem dog_arrays_come_apart :
    let r := (fresh 0 { preload := false }).after
      ((fresh 0 { preload := false }).perform (.resolve ⟨.reference "Dog", 2⟩))
    r.Reachable ∧ r.get ⟨0, 9⟩ = .ok (.array ⟨0, 8⟩ "Dog[]" "[LDog;") ∧
    r.elementType ⟨0, 9⟩ = .ok ⟨0, 8⟩ ∧ r.dimensions ⟨0, 9⟩ = .ok 1 ∧
    r.withDimensions ⟨0, 8⟩ 1 = .ok (⟨0, 9⟩, r) ∧
    ∃ s, r.withDimensions ⟨0, 9⟩ 2 = .ok (⟨0, 11⟩, s) ∧ s.count = r.count + 1 ∧
      s.dimensions ⟨0, 11⟩ = .ok (1 + 2) ∧ s.elementType ⟨0, 11⟩ = .ok ⟨0, 8⟩ ∧
      s.descend ⟨0, 11⟩ 2 = .ok (some ⟨0, 9⟩) := by
  intro r
  have hr : r.Reachable := .call (.fresh 0 _) _
  have hget : r.get ⟨0, 9⟩ = .ok (.array ⟨0, 8⟩ "Dog[]" "[LDog;") := rfl
  have ht : r.Denotes ⟨0, 9⟩ ⟨.reference "Dog", 1⟩ := .array rfl (.reference rfl)
  obtain ⟨b, k, hb, hk, -, hdescend, hback, hmore⟩ := takes_apart_and_rebuilds hr hget
  cases ht.dimensions_eq.symm.trans hk
  cases hdescend
  obtain ⟨g, s, hg, hlevels, helement, hdown, -⟩ := hmore 2
  cases hg
  exact ⟨hr, hget, hb, hk, hback, _, rfl, rfl, hlevels, helement, hdown⟩

end ArrayTypes.Registry
