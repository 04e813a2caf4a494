import ArrayTypes.Proofs.Registry.Foreign

/-! Registries that hold the same types in slots of their own, but for some that one of them
has beyond the other. Handles of one type correspond. A request made of both registries, with
a component that corresponds, is answered by handles that correspond, and a query by answers
that differ in such handles alone. -/

namespace ArrayTypes

/-! ### Answers that differ in handles and counts -/

/-- Two answers that are the same but for their handles, which are related, and for a number
that is greater by `excess` in the first. -/
inductive Answer.Alike (same : Handle → Handle → Prop) (excess : Nat) : Answer → Answer → Prop
  | nothing : Alike same excess .nothing .nothing
  | flag (b : Bool) : Alike same excess (.flag b) (.flag b)
  | number (n : Nat) : Alike same excess (.number (n + excess)) (.number n)
  | text (s : String) : Alike same excess (.text s) (.text s)
  | texts (names : List String) : Alike same excess (.texts names) (.texts names)
  | handle {g h : Handle} (hs : same g h) : Alike same excess (.handle g) (.handle h)
  | noComponent : Alike same excess (.component none) (.component none)
  | component {g h : Handle} (hs : same g h) :
    Alike same excess (.component (some g)) (.component (some h))
  | value (v : Value) : Alike same excess (.value v) (.value v)
  | slot (v : Option Value) : Alike same excess (.slot v) (.slot v)
  | scalar {d : Descriptor} (hd : d.component? = none) :
    Alike same excess (.descriptor d) (.descriptor d)
  | array {g h : Handle} (hs : same g h) (name bin : String) :
    Alike same excess (.descriptor (.array g name bin)) (.descriptor (.array h name bin))
  | assignable (b : Bool) (questions : List Question) :
    Alike same excess (.assignable b questions) (.assignable b questions)
  | agreement (b : Bool) (n : Nat) :
    Alike same excess (.agreement b (n + excess)) (.agreement b n)

/-- Two failures that are the same but for the foreign handle that they name. -/
inductive Failure.Alike (same : Handle → Handle → Prop) : Failure → Failure → Prop
  | invalidTypeLiteral (text : String) (cause : TypeLiteral.SyntaxError) :
    Alike same (.invalidTypeLiteral text cause) (.invalidTypeLiteral text cause)
  | classCast (source target : String) :
    Alike same (.classCast source target) (.classCast source target)
  | arrayStore (value component : String) :
    Alike same (.arrayStore value component) (.arrayStore value component)
  | notAnArray (name : String) : Alike same (.notAnArray name) (.notAnArray name)
  | foreignHandle {g h : Handle} (hs : same g h) (registry : Nat) :
    Alike same (.foreignHandle g registry) (.foreignHandle h registry)

theorem Answer.Alike.imp {same same' : Handle → Handle → Prop} {excess : Nat} {a b : Answer}
    (h : a.Alike same excess b) (himp : ∀ g h, same g h → same' g h) :
    a.Alike same' excess b := by
  cases h with
  | handle hs => exact .handle (himp _ _ hs)
  | component hs => exact .component (himp _ _ hs)
  | array hs name bin => exact .array (himp _ _ hs) name bin
  | scalar hd => exact .scalar hd
  | _ => constructor

theorem Failure.Alike.imp {same same' : Handle → Handle → Prop} {f f' : Failure}
    (h : f.Alike same f') (himp : ∀ g h, same g h → same' g h) : f.Alike same' f' := by
  cases h with
  | foreignHandle hs registry => exact .foreignHandle (himp _ _ hs) registry
  | _ => constructor

namespace Registry

variable {extra : Set TypeLiteral} {r r' s s' : Registry} {g g' h h' : Handle}

/-- The handles stand for one type, each in its own registry. -/
def Corresponds (r r' : Registry) (g h : Handle) : Prop :=
  ∃ t, r.Denotes g t ∧ r'.Denotes h t

/-- `r` has the types of `r'` and the extra ones. -/
structure Twin (extra : Set TypeLiteral) (r r' : Registry) : Prop where
  id_eq : r.id = r'.id
  consistent_left : r.Consistent
  consistent_right : r'.Consistent
  types_eq : r.types = r'.types ∪ extra

namespace Twin

theorem eq_iff (ht : Twin extra r r') (hc : Corresponds r r' g h) (hc' : Corresponds r r' g' h') :
    g = g' ↔ h = h' := by
  obtain ⟨t, hg, hh⟩ := hc
  obtain ⟨u, hg', hh'⟩ := hc'
  rw [hg.eq_iff ht.consistent_left hg', hh.eq_iff ht.consistent_right hh']

theorem primitive_eq (ht : Twin extra r r') (kind : Kind) : r.primitive kind = r'.primitive kind := by
  rw [primitive, primitive, ht.id_eq]

theorem corresponds_primitive (ht : Twin extra r r') (kind : Kind) :
    Corresponds r r' (r.primitive kind) (r'.primitive kind) :=
  ⟨_, denotes_primitive ht.consistent_left kind, denotes_primitive ht.consistent_right kind⟩

/-! ### Requests -/

/-- Both requests are answered, by handles of one type, and leave twins behind. -/
def Made (extra : Set TypeLiteral) (x x' : Except Failure (Handle × Registry)) : Prop :=
  ∃ g s h s', x = .ok (g, s) ∧ x' = .ok (h, s') ∧ Twin extra s s' ∧ Corresponds s s' g h

/-- Both registries gain the same type. -/
theorem of_obtain (ht : Twin extra r r') (q q' : Request Handle) (hq : r.obtain q = .ok (g, s))
    (hq' : r'.obtain q' = .ok (h, s')) {t : TypeLiteral} (hg : s.Denotes g t)
    (hh : s'.Denotes h t) : Twin extra s s' := by
  have hgrows : r.Grows s := grows_of_obtain hq
  have hgrows' : r'.Grows s' := grows_of_obtain hq'
  refine ⟨?_, ht.consistent_left.of_grows hgrows, ht.consistent_right.of_grows hgrows', ?_⟩
  · rw [hgrows.id_eq, hgrows'.id_eq, ht.id_eq]
  · rw [types_of_obtain ht.consistent_left hq hg, types_of_obtain ht.consistent_right hq' hh,
      ht.types_eq, Set.insert_union]

theorem reference (ht : Twin extra r r') (name : String) :
    Made extra (.ok (r.reference name)) (.ok (r'.reference name)) := by
  have hg := denotes_reference ht.consistent_left name
  have hh := denotes_reference ht.consistent_right name
  have htwin : Twin extra (r.reference name).2 (r'.reference name).2 :=
    ht.of_obtain (.reference name) (.reference name) rfl rfl hg hh
  exact ⟨_, _, _, _, rfl, rfl, htwin, _, hg, hh⟩

theorem arrayOf (ht : Twin extra r r') (hc : Corresponds r r' g h) :
    Made extra (r.arrayOf g) (r'.arrayOf h) := by
  obtain ⟨⟨e, n⟩, hg, hh⟩ := hc
  obtain ⟨d, hd⟩ := hg.exists_get
  obtain ⟨d', hd'⟩ := hh.exists_get
  obtain ⟨a, s, ha⟩ := arrayOf_eq_ok_of_get hd
  obtain ⟨b, s', hb⟩ := arrayOf_eq_ok_of_get hd'
  have hat := denotes_of_arrayOf ht.consistent_left ha hg
  have hbt := denotes_of_arrayOf ht.consistent_right hb hh
  have htwin : Twin extra s s' := ht.of_obtain (.arrayOf g) (.arrayOf h) ha hb hat hbt
  exact ⟨a, s, b, s', ha, hb, htwin, _, hat, hbt⟩

theorem withDimensions (ht : Twin extra r r') (hc : Corresponds r r' g h) (n : Nat) :
    Made extra (r.withDimensions g n) (r'.withDimensions h n) := by
  induction n generalizing r r' g h with
  | zero => exact ⟨g, r, h, r', rfl, rfl, ht, hc⟩
  | succ n ih =>
    obtain ⟨a, s, b, s', ha, hb, ht₁, hc₁⟩ := ht.arrayOf hc
    simp only [Registry.withDimensions, ha, hb]
    exact ih ht₁ hc₁

theorem resolve (ht : Twin extra r r') (t : TypeLiteral) :
    Made extra (r.resolve t) (r'.resolve t) := by
  obtain ⟨e, n⟩ := t
  cases e with
  | primitive kind => exact ht.withDimensions (ht.corresponds_primitive kind) n
  | reference name =>
    obtain ⟨a, s, b, s', ha, hb, ht₁, hc₁⟩ := ht.reference name
    rw [Except.ok.injEq] at ha hb
    simp only [Registry.resolve, element, ha, hb]
    exact ht₁.withDimensions hc₁ n

/-! ### Queries -/

/-- The descriptors of one type differ in their components' handles alone. -/
theorem descriptor_alike (ht : Twin extra r r') (hc : Corresponds r r' g h) {d e : Descriptor}
    (hd : r.get g = .ok d) (he : r'.get h = .ok e) :
    Answer.Alike (Corresponds r r') 0 (.descriptor d) (.descriptor e) := by
  obtain ⟨t, hg, hh⟩ := hc
  obtain ⟨d', hd', hleft⟩ := hg.exists_bears ht.consistent_left
  obtain ⟨e', he', hright⟩ := hh.exists_bears ht.consistent_right
  cases hd.symm.trans hd'
  cases he.symm.trans he'
  have hname : d.name = e.name := hleft.name_eq.trans hright.name_eq.symm
  have hbin : d.binaryName = e.binaryName := hleft.binaryName_eq.trans hright.binaryName_eq.symm
  cases hg with
  | primitive hd' =>
    cases hd.symm.trans hd'
    cases hh with
    | primitive he' => cases he.symm.trans he'; exact .scalar rfl
  | reference hd' =>
    cases hd.symm.trans hd'
    cases hh with
    | reference he' => cases he.symm.trans he'; exact .scalar rfl
  | array hd' hgc =>
    cases hd.symm.trans hd'
    cases hh with
    | array he' hhc =>
      cases he.symm.trans he'
      cases hname
      cases hbin
      exact .array ⟨_, hgc, hhc⟩ _ _

theorem inspect (ht : Twin extra r r') (hc : Corresponds r r' g h) (query : Query) :
    ∃ a b, r.inspect g query = .ok a ∧ r'.inspect h query = .ok b ∧
      a.Alike (Corresponds r r') 0 b := by
  have ⟨t, hg, hh⟩ := hc
  obtain ⟨d, hd⟩ := hg.exists_get
  obtain ⟨e, he⟩ := hh.exists_get
  have both {α : Type} {x x' : Except Failure α} {v w : α} {f : α → Answer} (hx : x = .ok v)
      (hx' : x' = .ok w) (hf : (f v).Alike (Corresponds r r') 0 (f w)) :
      ∃ a b, f <$> x = .ok a ∧ f <$> x' = .ok b ∧ a.Alike (Corresponds r r') 0 b :=
    ⟨_, _, map_eq_ok_iff.2 ⟨v, hx, rfl⟩, map_eq_ok_iff.2 ⟨w, hx', rfl⟩, hf⟩
  cases query with
  | descriptor => exact both hd he (ht.descriptor_alike hc hd he)
  | name => exact both (hg.name_eq ht.consistent_left) (hh.name_eq ht.consistent_right) (.text _)
  | binaryName =>
    exact both (hg.binaryName_eq ht.consistent_left) (hh.binaryName_eq ht.consistent_right)
      (.text _)
  | isArray =>
    refine both hd he ?_
    rw [hg.isArray_eq hd, hh.isArray_eq he]
    exact .flag _
  | isPrimitive =>
    refine both hd he ?_
    rw [hg.isPrimitive_eq hd, hh.isPrimitive_eq he]
    exact .flag _
  | component =>
    obtain ⟨element, n⟩ := t
    cases n with
    | zero => exact both hg.componentType_zero hh.componentType_zero .noComponent
    | succ n =>
      obtain ⟨c, hgc, hct⟩ := hg.exists_componentType
      obtain ⟨c', hhc, hct'⟩ := hh.exists_componentType
      exact both hgc hhc (.component ⟨_, hct, hct'⟩)
  | element =>
    obtain ⟨b, hb, hbt⟩ := hg.exists_elementType
    obtain ⟨b', hb', hbt'⟩ := hh.exists_elementType
    exact both hb hb' (.handle ⟨_, hbt, hbt'⟩)
  | dimensions => exact both hg.dimensions_eq hh.dimensions_eq (.number _)
  | defaultValue => exact both hg.defaultValue_eq hh.defaultValue_eq (.value _)
  | slotDefault => exact both hg.slotDefault_eq hh.slotDefault_eq (.slot _)

/-! ### Counts -/

theorem count_eq (ht : Twin extra r r') : r.count = r'.count + (extra \ r'.types).ncard :=
  ht.consistent_right.count_eq_of_types_eq ht.consistent_left ht.types_eq

end Twin

/-! ### Preloaded registries -/

/-- The types that a registry has from the start if it is preloaded. -/
def primitiveArrays : Set TypeLiteral :=
  Set.range fun kind : Kind => ⟨.primitive kind, 1⟩

/-- The number of kinds whose array class has not been created. -/
def missing (r : Registry) : Nat :=
  Kind.all.countP fun kind => (r.lookup? (.arrayOf (r.primitive kind))).isNone

theorem types_after_primitiveArray (hr : r.Consistent) (kind : Kind) :
    (r.after (r.primitiveArray kind)).types = insert ⟨.primitive kind, 1⟩ r.types := by
  obtain ⟨h, s, ha⟩ := arrayOf_eq_ok_of_get (hr.get_primitive kind)
  have hd := denotes_of_arrayOf hr ha (denotes_primitive hr kind)
  rw [primitiveArray, ha]
  exact types_of_obtain (q := .arrayOf (r.primitive kind)) hr ha hd

theorem types_preload (hr : r.Consistent) : r.preload.types = r.types ∪ primitiveArrays := by
  have hfold (kinds : List Kind) :
      (kinds.foldl (fun r kind => r.after (r.primitiveArray kind)) r).types =
        r.types ∪ {t | ∃ kind ∈ kinds, t = ⟨.primitive kind, 1⟩} := by
    induction kinds generalizing r with
    | nil => simp
    | cons kind kinds ih =>
      have hg : r.Grows (r.after (r.primitiveArray kind)) :=
        grows_after_obtain r (.arrayOf (r.primitive kind))
      rw [List.foldl_cons, ih (hr.of_grows hg), types_after_primitiveArray hr]
      ext t
      simp [or_assoc, or_left_comm]
  rw [preload, hfold]
  ext t
  simp [primitiveArrays, Kind.mem_all, eq_comm]

theorem twin_fresh (id m n : Nat) :
    Twin primitiveArrays (fresh id { preload := true, capacity := m })
      (fresh id { preload := false, capacity := n }) := by
  have hr : (bare id).Consistent := consistent_bare id
  have hg : (bare id).Grows (bare id).preload := grows_preload (bare id)
  rw [fresh, fresh, if_pos rfl, if_neg Bool.false_ne_true]
  exact ⟨hg.id_eq, hr.of_grows hg, hr, types_preload hr⟩

theorem twin_self (hr : r.Consistent) : Twin ∅ r r :=
  ⟨rfl, hr, hr, (Set.union_empty _).symm⟩

theorem mem_types_primitiveArray_iff (hr : r.Consistent) {kind : Kind} :
    (⟨.primitive kind, 1⟩ : TypeLiteral) ∈ r.types ↔
      ∃ h, r.lookup? (.arrayOf (r.primitive kind)) = some h := by
  rw [mem_types_iff]
  constructor
  · rintro ⟨h, hh⟩
    cases hh with
    | array hd hc =>
      cases hc.injective hr (denotes_primitive hr kind)
      exact ⟨h, hr.lookup?_arrayOf_iff.2 ⟨_, _, hd⟩⟩
  · rintro ⟨h, hl⟩
    exact ⟨h, denotes_of_lookup?_arrayOf hr hl (denotes_primitive hr kind)⟩

theorem ncard_primitiveArrays_sdiff (hr : r.Consistent) :
    (primitiveArrays \ r.types).ncard = r.missing := by
  have hset : primitiveArrays \ r.types = (fun kind : Kind => (⟨.primitive kind, 1⟩ : TypeLiteral)) ''
      (Kind.all.filter fun kind => (r.lookup? (.arrayOf (r.primitive kind))).isNone).toFinset := by
    ext t
    simp only [primitiveArrays, Set.mem_sdiff, Set.mem_range, Set.mem_image, List.coe_toFinset,
      Set.mem_ofPred_eq, List.mem_filter, Kind.mem_all, true_and, Option.isNone_iff_eq_none]
    constructor
    · rintro ⟨⟨kind, rfl⟩, hn⟩
      rw [mem_types_primitiveArray_iff hr, ← Option.ne_none_iff_exists', not_not] at hn
      exact ⟨kind, hn, rfl⟩
    · rintro ⟨kind, hn, rfl⟩
      rw [mem_types_primitiveArray_iff hr, ← Option.ne_none_iff_exists', not_not]
      exact ⟨⟨kind, rfl⟩, hn⟩
  have hinj : Function.Injective fun kind : Kind => (⟨.primitive kind, 1⟩ : TypeLiteral) := by
    rintro kind kind' ⟨⟩
    rfl
  rw [hset, Set.ncard_image_of_injective _ hinj, Set.ncard_coe_finset,
    List.toFinset_card_of_nodup (Kind.nodup_all.filter _), missing, List.countP_eq_length_filter]

end Registry

end ArrayTypes
