import ArrayTypes.Proofs.Registry.Consistency
import Mathlib.Data.Set.Card

/-! The type that a handle stands for, as a relation on the chain of components. In a
consistent registry every descriptor stands for one type and no type has two handles, so
that handles and types are in bijection; creations leave it so and change no handle's
type. Requests find or make the handle of the type they ask for. -/

namespace ArrayTypes.Registry

/-- The components below `h` lead to the element of the type in as many steps as it has
levels. -/
inductive Denotes (r : Registry) : Handle → TypeLiteral → Prop
  | primitive {h : Handle} {kind : Kind} : r.get h = .ok (.primitive kind) →
    Denotes r h ⟨.primitive kind, 0⟩
  | reference {h : Handle} {name : String} : r.get h = .ok (.reference name) →
    Denotes r h ⟨.reference name, 0⟩
  | array {h c : Handle} {name bin : String} {e : Element} {n : Nat} :
    r.get h = .ok (.array c name bin) → Denotes r c ⟨e, n⟩ → Denotes r h ⟨e, n + 1⟩

/-- The type that a handle denotes, if it has one. -/
def typeOf? (r : Registry) (h : Handle) : Option TypeLiteral :=
  Except.toOption <| r.denotation h

/-- The types that the registry has descriptors for. -/
def types (r : Registry) : Set TypeLiteral :=
  {t | ∃ h, r.denotation h = .ok t}

variable {r r' : Registry}

theorem owner_of_get_eq_ok {h : Handle} {d : Descriptor} (hd : r.get h = .ok d) :
    h.owner = r.id :=
  (get_eq_ok_iff.1 hd).1

theorem find?_eq_some_iff {h : Handle} {d : Descriptor} :
    r.find? h = some d ↔ r.get h = .ok d := by
  unfold get
  cases r.find? h <;> simp

/-! ### The chain of components -/

theorem unwrap_bottom {h : Handle} {d : Descriptor} (hd : r.get h = .ok d)
    (hc : d.component? = none) : r.unwrap h = .ok (h, 0) := by
  rw [unwrap]
  split
  next e he => cases hd.symm.trans he
  next d' hd' =>
    cases hd.symm.trans hd'
    split
    · rfl
    next c hc' => cases hc.symm.trans hc'

/-- A level more than the component has, if the component's chain comes to an end. -/
theorem unwrap_component {h c : Handle} {d : Descriptor} (hd : r.get h = .ok d)
    (hc : d.component? = some c) :
    r.unwrap h = (fun (b, n) => (b, n + 1)) <$> r.unwrap c := by
  rw [unwrap]
  split
  next e he => cases hd.symm.trans he
  next d' hd' =>
    cases hd.symm.trans hd'
    split
    next hc' => cases hc.symm.trans hc'
    next c' hc' =>
      cases hc.symm.trans hc'
      cases r.unwrap c <;> rfl

theorem unwrap_array {h c : Handle} {d : Descriptor} (hd : r.get h = .ok d)
    (hc : d.component? = some c) {b : Handle} {n : Nat} (hb : r.unwrap c = .ok (b, n)) :
    r.unwrap h = .ok (b, n + 1) := by
  rw [unwrap_component hd hc, hb]
  rfl

theorem denotes_of_unwrap {h b : Handle} {n : Nat} (hb : r.unwrap h = .ok (b, n)) {e : Element}
    (he : r.Denotes b ⟨e, 0⟩) : r.Denotes h ⟨e, n⟩ := by
  fun_induction unwrap r h generalizing n with
  | case1 => cases hb
  | case2 => cases hb; exact he
  | case3 h d hd c hc b' n' hu ih =>
    cases hb
    cases d <;> cases hc
    exact .array hd (ih hu)
  | case4 => cases hb

theorem get_bottom_of_unwrap {h b : Handle} {n : Nat} (hb : r.unwrap h = .ok (b, n)) :
    ∃ d, r.get b = .ok d ∧ d.component? = none := by
  fun_induction unwrap r h generalizing n with
  | case1 => cases hb
  | case2 h d hd hc => cases hb; exact ⟨d, hd, hc⟩
  | case3 h d hd c hc b' n' hu ih => cases hb; exact ih hu
  | case4 => cases hb

namespace Denotes

theorem exists_get {h : Handle} {t : TypeLiteral} (ht : r.Denotes h t) : ∃ d, r.get h = .ok d := by
  cases ht with
  | primitive hd | reference hd | array hd => exact ⟨_, hd⟩

theorem unwrap {h : Handle} {t : TypeLiteral} (ht : r.Denotes h t) :
    ∃ b, r.unwrap h = .ok (b, t.dimensions) ∧ r.Denotes b ⟨t.element, 0⟩ := by
  induction ht with
  | primitive hd => exact ⟨_, unwrap_bottom hd rfl, .primitive hd⟩
  | reference hd => exact ⟨_, unwrap_bottom hd rfl, .reference hd⟩
  | array hd _ ih =>
    obtain ⟨b, hu, hb⟩ := ih
    exact ⟨b, unwrap_array hd rfl hu, hb⟩

end Denotes

/-- The relation and the function tell the same. -/
theorem denotation_eq_ok_iff {h : Handle} {t : TypeLiteral} :
    r.denotation h = .ok t ↔ r.Denotes h t := by
  unfold denotation
  constructor
  · intro ht
    obtain ⟨⟨b, n⟩, hu, hm⟩ := bind_eq_ok_iff.1 ht
    obtain ⟨d, hd, hc⟩ := get_bottom_of_unwrap hu
    obtain ⟨d', hd', hm⟩ := bind_eq_ok_iff.1 hm
    cases hd.symm.trans hd'
    cases d with
    | primitive kind => cases hm; exact denotes_of_unwrap hu (.primitive hd)
    | reference name => cases hm; exact denotes_of_unwrap hu (.reference hd)
    | array => cases hc
  · intro ht
    obtain ⟨b, hu, hb⟩ := ht.unwrap
    rw [hu]
    obtain ⟨e, n⟩ := t
    cases hb with
    | primitive hd | reference hd => exact bind_eq_ok_iff.2 ⟨_, rfl, bind_eq_ok_iff.2 ⟨_, hd, rfl⟩⟩

theorem typeOf?_eq_some_iff {h : Handle} {t : TypeLiteral} :
    r.typeOf? h = some t ↔ r.Denotes h t := by
  rw [← denotation_eq_ok_iff, typeOf?, toOption_eq_some_iff]

namespace Denotes

theorem unique {h : Handle} {t u : TypeLiteral} (ht : r.Denotes h t) (hu : r.Denotes h u) :
    t = u :=
  Except.ok.inj ((denotation_eq_ok_iff.2 ht).symm.trans (denotation_eq_ok_iff.2 hu))

/-- Creations leave every handle its type. -/
theorem grows {h : Handle} {t : TypeLiteral} (ht : r.Denotes h t) (hg : r.Grows r') :
    r'.Denotes h t := by
  induction ht with
  | primitive hd => exact .primitive (hg.get_of_get hd)
  | reference hd => exact .reference (hg.get_of_get hd)
  | array hd _ ih => exact .array (hg.get_of_get hd) ih

/-- No type has two handles: the memo knows only one for its element, and one for each
further level. -/
theorem injective (hr : r.Consistent) {g h : Handle} {t : TypeLiteral} (hg : r.Denotes g t)
    (hh : r.Denotes h t) : g = h := by
  induction hg generalizing h with
  | primitive hd =>
    cases hh with
    | primitive hd' => exact (hr.eq_primitive hd).trans (hr.eq_primitive hd').symm
  | reference hd =>
    cases hh with
    | reference hd' =>
      have hl := hr.lookup?_reference_iff.2 hd
      exact Option.some.inj (hl.symm.trans (hr.lookup?_reference_iff.2 hd'))
  | array hd _ ih =>
    cases hh with
    | array hd' hc' =>
      cases ih hc'
      have hl := hr.lookup?_arrayOf_iff.2 ⟨_, _, hd⟩
      exact Option.some.inj (hl.symm.trans (hr.lookup?_arrayOf_iff.2 ⟨_, _, hd'⟩))

theorem eq_iff (hr : r.Consistent) {g h : Handle} {t u : TypeLiteral} (hg : r.Denotes g t)
    (hh : r.Denotes h u) : g = h ↔ t = u := by
  constructor
  · rintro rfl
    exact hg.unique hh
  · rintro rfl
    exact hg.injective hr hh

end Denotes

/-- Every descriptor stands for a type. -/
theorem Consistent.exists_denotes (hr : r.Consistent) {h : Handle} {d : Descriptor}
    (hd : r.get h = .ok d) : ∃ t, r.Denotes h t := by
  induction hs : h.slot using Nat.strong_induction_on generalizing h d with
  | _ slot ih =>
    subst hs
    cases d with
    | primitive kind => exact ⟨_, .primitive hd⟩
    | reference name => exact ⟨_, .reference hd⟩
    | array c name bin =>
      obtain ⟨e, he, -⟩ := hr.eq_arrayOf hd rfl
      obtain ⟨t, ht⟩ := ih c.slot (slot_lt_of_get hd rfl) he rfl
      exact ⟨_, .array hd ht⟩

/-- A later type of an old handle is the type it had. -/
theorem Denotes.of_grows (hr : r.Consistent) (hg : r.Grows r') {h : Handle} {d : Descriptor}
    (hd : r.get h = .ok d) {t : TypeLiteral} (ht : r'.Denotes h t) : r.Denotes h t := by
  obtain ⟨u, hu⟩ := hr.exists_denotes hd
  cases ht.unique (hu.grows hg)
  exact hu

/-! ### As many types as descriptors -/

theorem mem_types_iff {t : TypeLiteral} : t ∈ r.types ↔ ∃ h, r.Denotes h t := by
  constructor
  · rintro ⟨h, hh⟩
    exact ⟨h, denotation_eq_ok_iff.1 hh⟩
  · rintro ⟨h, hh⟩
    exact ⟨h, denotation_eq_ok_iff.2 hh⟩

theorem Grows.types_subset (hg : r.Grows r') : r.types ⊆ r'.types := by
  intro t ht
  obtain ⟨h, hh⟩ := mem_types_iff.1 ht
  exact mem_types_iff.2 ⟨h, hh.grows hg⟩

theorem get_of_slot_lt {slot : Nat} (hs : slot < r.count) : ∃ d, r.get ⟨r.id, slot⟩ = .ok d :=
  ⟨r.entries[slot], get_eq_ok_iff.2 ⟨rfl, Array.getElem?_eq_getElem hs⟩⟩

theorem Consistent.ncard_types (hr : r.Consistent) : r.types.ncard = r.count := by
  have hex : ∀ slot, slot < r.count → ∃ t, r.Denotes ⟨r.id, slot⟩ t := by
    intro slot hs
    obtain ⟨d, hd⟩ := get_of_slot_lt hs
    exact hr.exists_denotes hd
  choose typeAt htype using hex
  refine Set.ncard_eq_of_bijective typeAt ?_ ?_ ?_
  · intro t ht
    obtain ⟨h, hh⟩ := mem_types_iff.1 ht
    obtain ⟨d, hd⟩ := hh.exists_get
    have ho : h = ⟨r.id, h.slot⟩ := by rw [← (get_eq_ok_iff.1 hd).1]
    have hs := slot_lt_count_of_get hd
    exact ⟨h.slot, hs, (htype h.slot hs).unique (ho ▸ hh)⟩
  · intro slot hs
    exact mem_types_iff.2 ⟨_, htype slot hs⟩
  · intro slot slot' hs hs' ht
    have hh := (htype slot hs).injective hr (ht ▸ htype slot' hs')
    exact congrArg Handle.slot hh

theorem Consistent.finite_types (hr : r.Consistent) : r.types.Finite := by
  apply Set.finite_of_ncard_ne_zero
  rw [hr.ncard_types, hr.count_eq]
  omega

/-- Only types that were not there before are counted. -/
theorem Consistent.count_eq_of_types_eq (hr : r.Consistent) (hr' : r'.Consistent)
    {new : Set TypeLiteral} (h : r'.types = r.types ∪ new) :
    r'.count = r.count + (new \ r.types).ncard := by
  have hnew : (new \ r.types).Finite := by
    refine hr'.finite_types.subset (Set.sdiff_subset.trans ?_)
    rw [h]
    exact Set.subset_union_right
  rw [← hr'.ncard_types, ← hr.ncard_types, h, ← Set.union_sdiff_self]
  exact Set.ncard_union_eq Set.disjoint_sdiff_right hr.finite_types hnew

/-- Growth that brings no new type is none. -/
theorem Grows.eq_of_types_subset (hr : r.Consistent) (hg : r.Grows r')
    (h : r'.types ⊆ r.types) : r' = r := by
  have hcount : r'.count = r.count := by
    rw [← (hr.of_grows hg).ncard_types, ← hr.ncard_types, h.antisymm hg.types_subset]
  exact hg.eq_or_count_lt.resolve_right (by omega)

/-! ### Requests for types -/

theorem denotes_of_lookup?_reference (hr : r.Consistent) {name : String} {h : Handle}
    (hl : r.lookup? (.reference name) = some h) : r.Denotes h ⟨.reference name, 0⟩ :=
  .reference (hr.lookup?_reference_iff.1 hl)

theorem denotes_of_lookup?_arrayOf (hr : r.Consistent) {c h : Handle}
    (hl : r.lookup? (.arrayOf c) = some h) {e : Element} {n : Nat} (hc : r.Denotes c ⟨e, n⟩) :
    r.Denotes h ⟨e, n + 1⟩ := by
  obtain ⟨name, bin, hd⟩ := hr.lookup?_arrayOf_iff.1 hl
  exact .array hd hc

theorem denotes_primitive (hr : r.Consistent) (kind : Kind) :
    r.Denotes (r.primitive kind) ⟨.primitive kind, 0⟩ :=
  .primitive (hr.get_primitive kind)

/-- An array request fails just when it has no component to look at. -/
theorem arrayOf_eq_ok_of_get {c : Handle} {d : Descriptor} (hd : r.get c = .ok d) :
    ∃ h r', r.arrayOf c = .ok (h, r') := by
  unfold arrayOf
  split
  · exact ⟨_, _, rfl⟩
  · split
    next e he => cases hd.symm.trans he
    · exact ⟨_, _, rfl⟩

/-- What is not there has no array class in the memo either. -/
theorem arrayOf_eq_error_of_get (hr : r.Consistent) {c : Handle} {f : Failure}
    (hf : r.get c = .error f) : r.arrayOf c = .error f := by
  have hl : r.lookup? (.arrayOf c) = none := by
    cases hl : r.lookup? (.arrayOf c) with
    | none => rfl
    | some a =>
      obtain ⟨name, bin, ha⟩ := hr.lookup?_arrayOf_iff.1 hl
      obtain ⟨e, he, -⟩ := hr.eq_arrayOf ha rfl
      cases hf.symm.trans he
  unfold arrayOf
  split
  next h hs => cases hl.symm.trans hs
  · split
    next e he => cases hf.symm.trans he; rfl
    next d hd => cases hf.symm.trans hd

/-- A request is answered with a handle that adds its own type and no other. -/
theorem types_of_obtain (hr : r.Consistent) {q : Request Handle} {h : Handle}
    (hq : r.obtain q = .ok (h, r')) {t : TypeLiteral} (ht : r'.Denotes h t) :
    r'.types = insert t r.types := by
  have hg : r.Grows r' := grows_of_obtain hq
  have hr' : r'.Consistent := hr.of_grows hg
  refine Set.Subset.antisymm ?_ (Set.insert_subset (mem_types_iff.2 ⟨h, ht⟩) hg.types_subset)
  intro u hu
  obtain ⟨g, hgu⟩ := mem_types_iff.1 hu
  rcases obtain_cases hq with ⟨-, rfl⟩ | ⟨hn, hc, hl⟩
  · exact .inr hu
  · obtain ⟨q', d, ha⟩ := hc.adds
    obtain ⟨e, he⟩ := hgu.exists_get
    rcases ha.get_iff.1 he with hold | ⟨rfl, -⟩
    · exact .inr (mem_types_iff.2 ⟨g, hgu.of_grows hr hg hold⟩)
    · -- the memo's new answer can only be the new descriptor
      have hnext : r.next = h := by
        rw [ha.lookup?_eq] at hl
        split at hl
        · exact Option.some.inj hl
        · rw [hn] at hl
          cases hl
      rw [hnext] at hgu
      exact .inl (hgu.unique ht)

theorem denotes_reference (hr : r.Consistent) (name : String) :
    (r.reference name).2.Denotes (r.reference name).1 ⟨.reference name, 0⟩ :=
  denotes_of_lookup?_reference (hr.of_grows (grows_reference r name))
    (lookup?_of_obtain (q := .reference name) rfl)

theorem denotes_of_arrayOf (hr : r.Consistent) {c h : Handle} (ha : r.arrayOf c = .ok (h, r'))
    {e : Element} {n : Nat} (hc : r.Denotes c ⟨e, n⟩) : r'.Denotes h ⟨e, n + 1⟩ :=
  have hg : r.Grows r' := grows_of_arrayOf ha
  denotes_of_lookup?_arrayOf (hr.of_grows hg) (lookup?_of_obtain (q := .arrayOf c) ha)
    (hc.grows hg)

theorem exists_withDimensions (hr : r.Consistent) {c : Handle} {e : Element} {m : Nat}
    (hc : r.Denotes c ⟨e, m⟩) (n : Nat) :
    ∃ h r', r.withDimensions c n = .ok (h, r') ∧ r'.Denotes h ⟨e, m + n⟩ := by
  induction n generalizing r c m with
  | zero => exact ⟨c, r, rfl, hc⟩
  | succ n ih =>
    obtain ⟨d, hd⟩ := hc.exists_get
    obtain ⟨h₁, r₁, ha⟩ := arrayOf_eq_ok_of_get hd
    obtain ⟨h, r', hw, hh⟩ := ih (hr.of_grows (grows_of_arrayOf ha)) (denotes_of_arrayOf hr ha hc)
    refine ⟨h, r', ?_, ?_⟩
    · simp only [withDimensions, ha, hw]
    · rwa [show m + (n + 1) = m + 1 + n by omega]

theorem denotes_element (hr : r.Consistent) (e : Element) :
    (r.element e).2.Denotes (r.element e).1 ⟨e, 0⟩ := by
  cases e with
  | primitive kind => exact denotes_primitive hr kind
  | reference name => exact denotes_reference hr name

/-- Every type can be resolved, to a handle of just that type. -/
theorem exists_resolve (hr : r.Consistent) (t : TypeLiteral) :
    ∃ h r', r.resolve t = .ok (h, r') ∧ r'.Denotes h t := by
  have he := denotes_element hr t.element
  obtain ⟨h, r', hw, hh⟩ :=
    exists_withDimensions (hr.of_grows (grows_element r t.element)) he t.dimensions
  rw [Nat.zero_add] at hh
  exact ⟨h, r', hw, hh⟩

end ArrayTypes.Registry
