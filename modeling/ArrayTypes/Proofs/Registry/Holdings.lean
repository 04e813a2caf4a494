import ArrayTypes.Proofs.Concurrency.Together
import ArrayTypes.Proofs.TypeLiteral.Parts

/-! What a registry holds. A call adds the type that it asks for and the parts of that type,
as far as they are not there yet, and a call that asks for nothing new adds nothing. So after
any calls a registry holds the types it started with and the parts of all types that were asked
for, each of them in one descriptor, whatever the order of the calls and however often a type
was asked for. -/

namespace ArrayTypes

namespace TypeLiteral

/-- What is asked for on the way to a type are its parts, a primitive apart. -/
theorem mem_route_iff {t u : TypeLiteral} :
    t ∈ u.route ↔ t ∈ parts {u} ∧ ∀ kind, t ≠ ⟨.primitive kind, 0⟩ := by
  obtain ⟨f, m⟩ := u
  obtain ⟨e, n⟩ := t
  rw [mem_parts_singleton_iff]
  cases f with
  | primitive kind =>
    simp only [route, List.mem_map, List.mem_range, TypeLiteral.mk.injEq]
    constructor
    · rintro ⟨i, hi, rfl, rfl⟩
      exact ⟨⟨rfl, hi⟩, by simp⟩
    · rintro ⟨⟨rfl, hle⟩, hne⟩
      have hpos : n ≠ 0 := fun hn => hne kind (by rw [hn])
      exact ⟨n - 1, by omega, rfl, by omega⟩
  | reference name =>
    simp only [route, List.mem_map, List.mem_range, TypeLiteral.mk.injEq]
    constructor
    · rintro ⟨i, hi, rfl, rfl⟩
      exact ⟨⟨rfl, Nat.le_of_lt_succ hi⟩, by simp⟩
    · rintro ⟨⟨rfl, hle⟩, -⟩
      exact ⟨n, Nat.lt_succ_of_le hle, rfl, rfl⟩

end TypeLiteral

open TypeLiteral (parts routes)

/-- The call asks for one type and answers with its handle. -/
def Call.isRequest {ι η : Type} : Call ι η → Bool
  | reference _ | primitiveArray _ | arrayOf _ | withDimensions _ _ | resolve _ | forName _ => true
  | _ => false

namespace Registry

/-- The types of the primitives. -/
def primitives : Set TypeLiteral :=
  Set.range fun kind : Kind => ⟨.primitive kind, 0⟩

/-- The type of the handle, if it has one, with `n` levels more. -/
def raised (r : Registry) (h : Handle) (n : Nat) : Set TypeLiteral :=
  {t | ∃ e m, r.denotation h = .ok ⟨e, m⟩ ∧ t = ⟨e, m + n⟩}

/-- The types that a call asks for. A handle of no type and a text that cannot be read ask for
none. -/
def sought (r : Registry) : Call Handle Hierarchy → Set TypeLiteral
  | .reference name => {⟨.reference name, 0⟩}
  | .primitiveArray kind => {⟨.primitive kind, 1⟩}
  | .arrayOf c => r.raised c 1
  | .withDimensions e n => r.raised e n
  | .resolve t => {t}
  | .forName text => {t | TypeLiteral.parse text = .ok t}
  | .resolveTogether threads texts =>
    {t | 0 < threads ∧ ∃ text ∈ texts, TypeLiteral.parse text = .ok t}
  | .raceTogether threads rounds name =>
    {t | 0 < threads ∧ ∃ i < rounds, t = ⟨.reference (name ++ toString i), 2⟩}
  | _ => ∅

/-- The registry after one call after the other. -/
def run (r : Registry) (calls : List (Call Handle Hierarchy)) : Registry :=
  calls.foldl (fun r call => r.after (r.perform call)) r

/-- The types that the calls of a run ask for. -/
def requested (r : Registry) : List (Call Handle Hierarchy) → Set TypeLiteral
  | [] => ∅
  | call :: calls => r.sought call ∪ (r.after (r.perform call)).requested calls

variable {r r' : Registry} {c h : Handle} {e : Element} {t : TypeLiteral} {m n : Nat}

/-! ### Types and their parts -/

/-- With a type a registry holds its parts. -/
theorem mem_types_of_le (ht : ⟨e, m⟩ ∈ r.types) (hle : n ≤ m) : ⟨e, n⟩ ∈ r.types := by
  induction hle with
  | refl => exact ht
  | step _ ih =>
    obtain ⟨h, hh⟩ := mem_types_iff.1 ht
    exact ih hh.component_mem_types

theorem parts_subset_types {S : Set TypeLiteral} (hS : S ⊆ r.types) : parts S ⊆ r.types := by
  rintro ⟨e, n⟩ ht
  obtain ⟨m, hle, hm⟩ := TypeLiteral.mem_parts_iff.1 ht
  exact mem_types_of_le (hS hm) hle

theorem mem_types_primitive (hr : r.Consistent) (kind : Kind) :
    ⟨.primitive kind, 0⟩ ∈ r.types :=
  mem_types_iff.2 ⟨_, denotes_primitive hr kind⟩

/-- The primitives are there, so that it makes no difference that they are not asked for. -/
theorem types_union_routes (hr : r.Consistent) (S : Set TypeLiteral) :
    r.types ∪ routes S = r.types ∪ parts S := by
  ext t
  constructor
  · rintro (ht | ⟨u, hu, ht⟩)
    · exact .inl ht
    · exact .inr (TypeLiteral.mem_parts_iff_exists.2 ⟨u, hu, (TypeLiteral.mem_route_iff.1 ht).1⟩)
  · rintro (ht | ht)
    · exact .inl ht
    · by_cases hprimitive : ∃ kind, t = ⟨.primitive kind, 0⟩
      · obtain ⟨kind, rfl⟩ := hprimitive
        exact .inl (mem_types_primitive hr kind)
      · obtain ⟨u, hu, ht⟩ := TypeLiteral.mem_parts_iff_exists.1 ht
        exact .inr ⟨u, hu, TypeLiteral.mem_route_iff.2 ⟨ht, not_exists.1 hprimitive⟩⟩

/-! ### What a call adds -/

theorem types_of_withDimensions (hr : r.Consistent) (hc : r.Denotes c ⟨e, m⟩)
    (hw : r.withDimensions c n = .ok (h, r')) : r'.types = r.types ∪ parts {⟨e, m + n⟩} := by
  induction n generalizing r c m with
  | zero =>
    cases hw
    have hparts : parts {⟨e, m + 0⟩} ⊆ r'.types :=
      parts_subset_types (Set.singleton_subset_iff.2 (mem_types_iff.2 ⟨h, hc⟩))
    exact (Set.union_eq_self_of_subset_right hparts).symm
  | succ n ih =>
    rw [withDimensions_succ] at hw
    obtain ⟨⟨h₁, r₁⟩, ha, hw⟩ := bind_eq_ok_iff.1 hw
    have hg : r.Grows r₁ := grows_of_arrayOf ha
    have hh₁ : r₁.Denotes h₁ ⟨e, m + 1⟩ := denotes_of_arrayOf hr ha hc
    have htypes : r₁.types = insert ⟨e, m + 1⟩ r.types :=
      types_of_obtain (q := .arrayOf c) hr ha hh₁
    -- the level that is made first is a part of the type that the others lead to
    have hpart : (⟨e, m + 1⟩ : TypeLiteral) ∈ parts {⟨e, m + 1 + n⟩} :=
      TypeLiteral.mem_parts_singleton_iff.2 ⟨rfl, Nat.le_add_right _ _⟩
    rw [ih (hr.of_grows hg) hh₁ hw, htypes, Set.insert_union,
      Set.insert_eq_of_mem (Set.mem_union_right _ hpart), Nat.add_assoc, Nat.add_comm 1 n]

theorem types_element (hr : r.Consistent) (e : Element) :
    (r.element e).2.types = insert ⟨e, 0⟩ r.types := by
  cases e with
  | primitive kind => exact (Set.insert_eq_of_mem (mem_types_primitive hr kind)).symm
  | reference name =>
    exact types_of_obtain (q := .reference name) hr rfl (denotes_reference hr name)

theorem types_of_resolve (hr : r.Consistent) (ht : r.resolve t = .ok (h, r')) :
    r'.types = r.types ∪ parts {t} := by
  obtain ⟨e, n⟩ := t
  have hg : r.Grows (r.element e).2 := grows_element r e
  have hpart : (⟨e, 0⟩ : TypeLiteral) ∈ parts {⟨e, n⟩} :=
    TypeLiteral.mem_parts_singleton_iff.2 ⟨rfl, Nat.zero_le n⟩
  rw [types_of_withDimensions (hr.of_grows hg) (denotes_element hr e) ht, types_element hr,
    Set.insert_union, Nat.zero_add, Set.insert_eq_of_mem (Set.mem_union_right _ hpart)]

theorem types_after_resolve (hr : r.Consistent) (t : TypeLiteral) :
    (r.after (r.resolve t)).types = r.types ∪ parts {t} := by
  obtain ⟨h, r', ht, -⟩ := exists_resolve hr t
  rw [ht]
  exact types_of_resolve hr ht

theorem raised_of_denotes (hc : r.Denotes c ⟨e, m⟩) (n : Nat) :
    r.raised c n = {⟨e, m + n⟩} := by
  ext t
  simp [raised, denotation_eq_ok_iff.2 hc]

/-- What is not there has no type to go on with. -/
theorem raised_of_get_eq_error {f : Failure} (hf : r.get c = .error f) (n : Nat) :
    r.raised c n = ∅ := by
  rw [Set.eq_empty_iff_forall_notMem]
  rintro t ⟨e, m, hc, -⟩
  obtain ⟨d, hd⟩ := (denotation_eq_ok_iff.1 hc).exists_get
  cases hf.symm.trans hd

theorem types_after_withDimensions (hr : r.Consistent) (c : Handle) (n : Nat) :
    (r.after (r.withDimensions c n)).types = r.types ∪ parts (r.raised c n) := by
  cases hd : r.get c with
  | ok d =>
    obtain ⟨⟨e, m⟩, hc⟩ := hr.exists_denotes hd
    obtain ⟨h, r', hw, -⟩ := exists_withDimensions hr hc n
    rw [hw, raised_of_denotes hc]
    exact types_of_withDimensions hr hc hw
  | error f =>
    rw [raised_of_get_eq_error hd, TypeLiteral.parts_empty, Set.union_empty]
    cases n with
    | zero => rfl
    | succ n =>
      rw [withDimensions_of_get_eq_error hr hd]
      rfl

theorem withDimensions_one (r : Registry) (c : Handle) : r.withDimensions c 1 = r.arrayOf c := by
  rw [withDimensions]
  cases r.arrayOf c <;> rfl

/-- A call adds the parts of the types that it asks for. -/
theorem types_after_perform (hr : r.Consistent) (call : Call Handle Hierarchy) :
    (r.after (r.perform call)).types = r.types ∪ parts (r.sought call) := by
  have hnone : r.types = r.types ∪ parts ∅ := by
    rw [TypeLiteral.parts_empty, Set.union_empty]
  cases call with
  | primitive | count => exact hnone
  | inspect | isNamed | assignable | checkedCast | checkStore =>
    rw [perform, after_map_pair]
    exact hnone
  | reference name => exact types_after_resolve hr ⟨.reference name, 0⟩
  | primitiveArray kind =>
    rw [perform, after_map_made, primitiveArray, ← withDimensions_one]
    exact types_after_resolve hr ⟨.primitive kind, 1⟩
  | arrayOf c =>
    rw [perform, after_map_made, ← withDimensions_one]
    exact types_after_withDimensions hr c 1
  | withDimensions c n =>
    rw [perform, after_map_made]
    exact types_after_withDimensions hr c n
  | resolve t =>
    rw [perform, after_map_made]
    exact types_after_resolve hr t
  | forName text =>
    rw [perform, after_map_made, forName, sought]
    cases TypeLiteral.parse text with
    | ok t => simpa using types_after_resolve hr t
    | error cause => simp [after]
  | resolveTogether threads texts =>
    have hserves := serves_finish hr (r.closed_textPrograms threads texts)
    rw [sought, ← types_union_routes hr, ← asked_textPrograms hr]
    exact hserves.types_eq (Crew.finished_finish _ _)
  | raceTogether threads rounds name =>
    have hserves := serves_finish hr (r.closed_roundPrograms threads rounds name)
    rw [sought, ← types_union_routes hr, ← asked_roundRequests hr]
    exact hserves.types_eq (Crew.finished_finish _ _)

/-- A call that asks for nothing new adds nothing. -/
theorem after_perform_of_sought_subset (hr : r.Consistent) {call : Call Handle Hierarchy}
    (hs : r.sought call ⊆ r.types) : r.after (r.perform call) = r := by
  apply (grows_after_perform r call).eq_of_types_subset hr
  rw [types_after_perform hr]
  exact Set.union_subset subset_rfl (parts_subset_types hs)

/-! ### Runs -/

@[simp] theorem run_nil (r : Registry) : r.run [] = r := rfl

@[simp] theorem run_cons (r : Registry) (call : Call Handle Hierarchy)
    (calls : List (Call Handle Hierarchy)) :
    r.run (call :: calls) = (r.after (r.perform call)).run calls := rfl

theorem grows_run (r : Registry) (calls : List (Call Handle Hierarchy)) :
    r.Grows (r.run calls) := by
  induction calls generalizing r with
  | nil => exact .refl r
  | cons call calls ih => exact (grows_after_perform r call).trans (ih _)

theorem types_run (hr : r.Consistent) (calls : List (Call Handle Hierarchy)) :
    (r.run calls).types = r.types ∪ parts (r.requested calls) := by
  induction calls generalizing r with
  | nil => simp [requested]
  | cons call calls ih =>
    rw [run_cons, ih (hr.of_grows (grows_after_perform r call)), types_after_perform hr,
      requested, TypeLiteral.parts_union, Set.union_assoc]

theorem types_bare (id : Nat) : (bare id).types = primitives := by
  have hr : (bare id).Consistent := consistent_bare id
  ext t
  rw [mem_types_iff]
  constructor
  · rintro ⟨h, hh⟩
    induction hh with
    | primitive hd => exact ⟨_, rfl⟩
    | reference hd | array hd =>
      obtain ⟨kind, hkind, -⟩ := get_bare_iff.1 hd
      cases hkind
  · rintro ⟨kind, rfl⟩
    exact ⟨_, denotes_primitive hr kind⟩

theorem types_fresh (id : Nat) (config : Config) :
    (fresh id config).types = primitives ∪ if config.preload then primitiveArrays else ∅ := by
  unfold fresh
  split
  · rw [types_preload (consistent_bare id), types_bare]
  · rw [types_bare, Set.union_empty]

theorem types_run_fresh (id : Nat) (config : Config) (calls : List (Call Handle Hierarchy)) :
    ((fresh id config).run calls).types =
      primitives ∪ (if config.preload then primitiveArrays else ∅) ∪
        parts ((fresh id config).requested calls) := by
  rw [types_run (consistent_fresh id config), types_fresh]

/-- The levels of an element are all there up to some number. -/
theorem Consistent.forall_notMem_or_exists_le_iff (hr : r.Consistent) (e : Element) :
    (∀ n, ⟨e, n⟩ ∉ r.types) ∨ ∃ d, ∀ n, ⟨e, n⟩ ∈ r.types ↔ n ≤ d := by
  by_cases hex : ∃ n, ⟨e, n⟩ ∈ r.types
  · obtain ⟨n₀, hn₀⟩ := hex
    -- there are finitely many types, so one of the levels is the greatest
    have hfinite : {t ∈ r.types | t.element = e}.Finite := hr.finite_types.sep _
    obtain ⟨⟨_, d⟩, ⟨hd, rfl⟩, hmax⟩ :=
      Set.exists_max_image _ TypeLiteral.dimensions hfinite ⟨⟨e, n₀⟩, hn₀, rfl⟩
    exact .inr ⟨d, fun n => ⟨fun hn => hmax _ ⟨hn, rfl⟩, mem_types_of_le hd⟩⟩
  · exact .inl (not_exists.1 hex)

/-! ### The descriptors that are added -/

theorem exists_entries_of_arrayOf (ha : r.arrayOf c = .ok (h, r')) :
    ∃ arrays, r'.entries.toList = r.entries.toList ++ arrays ∧
      ∀ d ∈ arrays, d.isArray = true := by
  simp only [arrayOf] at ha
  split at ha
  · cases ha
    exact ⟨[], by simp⟩
  · split at ha
    · cases ha
    next d hd =>
      cases ha
      exact ⟨[d.arrayOf c], by simp [addArray], by simp [Descriptor.arrayOf, Descriptor.isArray]⟩

theorem exists_entries_of_withDimensions (hw : r.withDimensions c n = .ok (h, r')) :
    ∃ arrays, r'.entries.toList = r.entries.toList ++ arrays ∧
      ∀ d ∈ arrays, d.isArray = true := by
  induction n generalizing r c with
  | zero =>
    cases hw
    exact ⟨[], by simp⟩
  | succ n ih =>
    rw [withDimensions_succ] at hw
    obtain ⟨⟨h₁, r₁⟩, ha, hw⟩ := bind_eq_ok_iff.1 hw
    obtain ⟨first, hfirst, hd⟩ := exists_entries_of_arrayOf ha
    obtain ⟨arrays, harrays, hds⟩ := ih hw
    refine ⟨first ++ arrays, by rw [harrays, hfirst, List.append_assoc], fun d hm => ?_⟩
    exact (List.mem_append.1 hm).elim (hd d) (hds d)

/-- An element that is there is found, and another is a class and becomes one descriptor. -/
theorem element_cases (hr : r.Consistent) (e : Element) :
    ⟨e, 0⟩ ∈ r.types ∧ (r.element e).2 = r ∨
      ⟨e, 0⟩ ∉ r.types ∧ ∃ name, e = .reference name ∧
        (r.element e).2.entries = r.entries.push (.reference name) := by
  by_cases hm : ⟨e, 0⟩ ∈ r.types
  · obtain ⟨h, hh⟩ := mem_types_iff.1 hm
    exact .inl ⟨hm, by rw [hh.element_eq hr]⟩
  · cases e with
    | primitive kind => exact absurd (mem_types_primitive hr kind) hm
    | reference name =>
      have hn : r.lookup? (.reference name) = none := by
        rw [Option.eq_none_iff_forall_ne_some]
        exact fun h hl => hm (mem_types_iff.2 ⟨h, denotes_of_lookup?_reference hr hl⟩)
      exact .inr ⟨hm, name, rfl, by simp only [element, reference, hn, addReference]⟩

/-- Resolving a type adds one descriptor for each part that is not there, and of these only
the first can be no array. -/
theorem exists_entries_of_resolve (hr : r.Consistent) (e : Element) (n : Nat) :
    ∃ h r' new, r.resolve ⟨e, n⟩ = .ok (h, r') ∧
      r'.entries.toList = r.entries.toList ++ new ∧
      new.length = (parts {⟨e, n⟩} \ r.types).ncard ∧
      (⟨e, 0⟩ ∈ r.types → ∀ d ∈ new, d.isArray = true) ∧
      (⟨e, 0⟩ ∉ r.types → ∃ name arrays, e = .reference name ∧
        new = .reference name :: arrays ∧ ∀ d ∈ arrays, d.isArray = true) := by
  obtain ⟨h, r', ht, -⟩ := exists_resolve hr ⟨e, n⟩
  have hcount : r'.count = r.count + (parts {⟨e, n⟩} \ r.types).ncard :=
    hr.count_eq_of_types_eq (hr.of_grows (grows_of_resolve ht)) (types_of_resolve hr ht)
  obtain ⟨arrays, harrays, hall⟩ :=
    exists_entries_of_withDimensions (r := (r.element e).2) (c := (r.element e).1) ht
  -- every type has one descriptor, so there are as many new ones as new types
  have hlen {new : List Descriptor} (hnew : r'.entries.toList = r.entries.toList ++ new) :
      new.length = (parts {⟨e, n⟩} \ r.types).ncard := by
    have h := congrArg List.length hnew
    rw [List.length_append, Array.length_toList, Array.length_toList] at h
    unfold count at hcount
    omega
  rcases element_cases hr e with ⟨hm, hsame⟩ | ⟨hm, name, rfl, hpush⟩
  · rw [hsame] at harrays
    exact ⟨h, r', arrays, ht, harrays, hlen harrays, fun _ => hall, fun hn => absurd hm hn⟩
  · rw [hpush, Array.toList_push, List.append_assoc, List.singleton_append] at harrays
    exact ⟨h, r', _, ht, harrays, hlen harrays, fun hn => absurd hn hm,
      fun _ => ⟨name, arrays, rfl, rfl, hall⟩⟩

/-! ### Requests and their answers -/

theorem exists_handle_iff {x : Except Failure (Handle × Registry)} {u : TypeLiteral}
    (hx : x = .ok (h, r')) (hh : r'.Denotes h u) :
    (∃ g s, made <$> x = .ok (.handle g, s) ∧ s.denotation g = .ok t) ↔ t = u := by
  subst hx
  constructor
  · rintro ⟨g, s, hg, ht⟩
    cases hg
    exact (denotation_eq_ok_iff.1 ht).unique hh
  · rintro rfl
    exact ⟨h, r', rfl, denotation_eq_ok_iff.2 hh⟩

theorem mem_raised_iff (hr : r.Consistent) :
    t ∈ r.raised c n ↔
      ∃ g s, made <$> r.withDimensions c n = .ok (.handle g, s) ∧ s.denotation g = .ok t := by
  cases hd : r.get c with
  | ok d =>
    obtain ⟨⟨e, m⟩, hc⟩ := hr.exists_denotes hd
    obtain ⟨h, r', hw, hh⟩ := exists_withDimensions hr hc n
    rw [exists_handle_iff hw hh, raised_of_denotes hc, Set.mem_singleton_iff]
  | error f =>
    rw [raised_of_get_eq_error hd]
    refine iff_of_false (Set.notMem_empty t) ?_
    rintro ⟨g, s, hg, ht⟩
    cases n with
    | zero =>
      cases hg
      obtain ⟨d, hd'⟩ := (denotation_eq_ok_iff.1 ht).exists_get
      cases hd.symm.trans hd'
    | succ n =>
      rw [withDimensions_of_get_eq_error hr hd] at hg
      cases hg

/-- A request asks for the type of the handle that it is answered with. -/
theorem mem_sought_iff (hr : r.Consistent) {call : Call Handle Hierarchy}
    (hc : call.isRequest = true) :
    t ∈ r.sought call ↔
      ∃ h r', r.perform call = .ok (.handle h, r') ∧ r'.denotation h = .ok t := by
  have hresolve (u : TypeLiteral) :
      t ∈ ({u} : Set TypeLiteral) ↔
        ∃ g s, made <$> r.resolve u = .ok (.handle g, s) ∧ s.denotation g = .ok t := by
    obtain ⟨h, r', hu, hh⟩ := exists_resolve hr u
    rw [exists_handle_iff hu hh, Set.mem_singleton_iff]
  cases call with
  | reference name => exact hresolve ⟨.reference name, 0⟩
  | primitiveArray kind =>
    rw [perform, primitiveArray, ← withDimensions_one]
    exact hresolve ⟨.primitive kind, 1⟩
  | arrayOf c =>
    rw [perform, ← withDimensions_one]
    exact mem_raised_iff hr
  | withDimensions c n => exact mem_raised_iff hr
  | resolve u => exact hresolve u
  | forName text =>
    rw [perform, forName, sought, Set.mem_ofPred_eq]
    cases TypeLiteral.parse text with
    | ok u =>
      rw [← hresolve u, Set.mem_singleton_iff, Except.ok.injEq, eq_comm]
    | error cause =>
      refine iff_of_false (by simp) ?_
      rintro ⟨g, s, hg, -⟩
      cases hg
  | primitive | inspect | isNamed | assignable | checkedCast | checkStore | count
  | resolveTogether | raceTogether => cases hc

/-- After any calls a registry holds the primitives, the primitive arrays if it was preloaded,
and the parts of the types that were asked for, in one descriptor each, so that the number of
descriptors depends on these types alone. The levels of an element that are there have no gap,
and resolving a type adds an array for each missing level, and before these a class if its
element is not there. A request asks for the type of the handle that it is answered with; a
call that asks for no new type, as queries do, or that fails adds nothing. -/
theorem holds_parts_of_requested (id : Nat) (config : Config)
    (calls : List (Call Handle Hierarchy)) :
    let r := (fresh id config).run calls
    r.types = primitives ∪ (if config.preload then primitiveArrays else ∅) ∪
      parts ((fresh id config).requested calls) ∧
    r.count = r.types.ncard ∧
    (∀ id' config' calls', config'.preload = config.preload →
      (fresh id' config').requested calls' = (fresh id config).requested calls →
      ((fresh id' config').run calls').count = r.count) ∧
    (∀ e, (∀ n, ⟨e, n⟩ ∉ r.types) ∨ ∃ d, ∀ n, ⟨e, n⟩ ∈ r.types ↔ n ≤ d) ∧
    (∀ e n, ∃ h r' new, r.resolve ⟨e, n⟩ = .ok (h, r') ∧
      r'.entries.toList = r.entries.toList ++ new ∧
      (∀ d, (∀ m, ⟨e, m⟩ ∈ r.types ↔ m ≤ d) →
        new.length = n - d ∧ ∀ x ∈ new, x.isArray = true) ∧
      ((∀ m, ⟨e, m⟩ ∉ r.types) → ∃ name arrays, e = .reference name ∧
        new = .reference name :: arrays ∧ arrays.length = n ∧ ∀ x ∈ arrays, x.isArray = true)) ∧
    ∀ call, (call.isRequest = true → ∀ t, t ∈ r.sought call ↔
        ∃ h r', r.perform call = .ok (.handle h, r') ∧ r'.denotation h = .ok t) ∧
      (r.sought call ⊆ r.types ∨ (∃ f, r.perform call = .error f) →
        r.left call = r ∧ r.after (r.perform call) = r) := by
  intro r
  have hr : r.Consistent := (consistent_fresh id config).of_grows (grows_run _ calls)
  refine ⟨types_run_fresh id config calls, hr.ncard_types.symm, ?_,
    hr.forall_notMem_or_exists_le_iff, ?_, fun call => ⟨fun hc t => mem_sought_iff hr hc, ?_⟩⟩
  · intro id' config' calls' hpreload hrequested
    have hr' : ((fresh id' config').run calls').Consistent :=
      (consistent_fresh id' config').of_grows (grows_run _ calls')
    rw [← hr'.ncard_types, ← hr.ncard_types, types_run_fresh, types_run_fresh, hpreload,
      hrequested]
  · intro e n
    obtain ⟨h, r', new, ht, hentries, hlen, hknown, hunknown⟩ := exists_entries_of_resolve hr e n
    refine ⟨h, r', new, ht, hentries, fun d hd => ⟨?_, hknown ((hd 0).2 d.zero_le)⟩, fun hn => ?_⟩
    · rw [hlen, TypeLiteral.ncard_parts_sdiff_of_le_iff hd]
    · obtain ⟨name, arrays, he, hnew, hall⟩ := hunknown (hn 0)
      rw [TypeLiteral.ncard_parts_sdiff_of_forall_notMem hn, hnew, List.length_cons] at hlen
      exact ⟨name, arrays, he, hnew, Nat.succ.inj hlen, hall⟩
  · intro hnothing
    have hafter : r.after (r.perform call) = r := by
      rcases hnothing with hs | ⟨f, hf⟩
      · exact after_perform_of_sought_subset hr hs
      · rw [hf]
        rfl
    exact ⟨(left_eq_after hr call).trans hafter, hafter⟩

/-- Another order and other calls, but the same types. -/
example :
    let start := fresh 0 { preload := false }
    (start.run [.resolve ⟨.reference "Dog", 2⟩, .reference "Dog", .primitiveArray .int]).count =
      (start.run [.primitiveArray .int, .forName "Dog[]", .arrayOf ⟨0, 10⟩]).count := by
  cbv

end Registry

end ArrayTypes
