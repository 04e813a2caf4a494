import ArrayTypes.Proofs.Registry.Growth
import Mathlib.Data.List.Nodup

/-! The arena and the memos of a registry tell the same. The primitives stand in their
fixed slots and nowhere else, every other descriptor is in the memo as the answer to its
own request, and the memos hold nothing more. This is so in every registry that requests
lead to, whether their handles are its own or not. -/

namespace ArrayTypes

namespace Kind

theorem nodup_all : all.Nodup := by
  decide

theorem index_of_all_getElem? {i : Nat} {k : Kind} (h : all[i]? = some k) : i = k.index := by
  have hi : i < all.length := (List.getElem?_eq_some_iff.1 h).1
  exact (List.getElem?_inj hi nodup_all).1 (h.trans (all_getElem?_index k).symm)

theorem index_lt (k : Kind) : k.index < 8 := by
  cases k <;> decide

end Kind

namespace Registry

/-- What every registry keeps to. -/
structure Consistent (r : Registry) : Prop where
  get_primitive : ∀ kind : Kind, r.get (r.primitive kind) = .ok (.primitive kind)
  eq_primitive : ∀ {h : Handle} {kind : Kind}, r.get h = .ok (.primitive kind) →
    h = r.primitive kind
  /-- An array's component is a descriptor of the registry, and gives the array its names. -/
  eq_arrayOf : ∀ {h c : Handle} {d : Descriptor}, r.get h = .ok d → d.component? = some c →
    ∃ e, r.get c = .ok e ∧ d = e.arrayOf c
  lookup?_iff : ∀ {q : Request Handle} {h : Handle},
    r.lookup? q = some h ↔ ∃ d, r.get h = .ok d ∧ d.request? = some q
  nodup_arrays : (r.arrays.map Prod.fst).Nodup
  nodup_references : (r.references.map Prod.fst).Nodup
  count_eq : r.count = 8 + r.arrays.length + r.references.length

/-! ### A registry that holds the primitives alone -/

theorem get_bare_iff {id : Nat} {h : Handle} {d : Descriptor} :
    (bare id).get h = .ok d ↔ ∃ kind, d = .primitive kind ∧ h = (bare id).primitive kind := by
  rw [get_eq_ok_iff]
  constructor
  · rintro ⟨ho, hd⟩
    have hl : (Kind.all.map Descriptor.primitive)[h.slot]? = some d := by simpa [bare] using hd
    obtain ⟨kind, hk, rfl⟩ := by simpa only [List.getElem?_map, Option.map_eq_some_iff] using hl
    have hs : h.slot = kind.index := Kind.index_of_all_getElem? hk
    exact ⟨kind, rfl, by rw [primitive, ← hs, ← ho]⟩
  · rintro ⟨kind, rfl, rfl⟩
    refine ⟨rfl, ?_⟩
    simp [bare, primitive, Kind.all_getElem?_index]

theorem consistent_bare (id : Nat) : (bare id).Consistent where
  get_primitive kind := get_bare_iff.2 ⟨kind, rfl, rfl⟩
  eq_primitive hd := by
    obtain ⟨kind, hk, rfl⟩ := get_bare_iff.1 hd
    cases hk
    rfl
  eq_arrayOf hd hc := by
    obtain ⟨kind, rfl, -⟩ := get_bare_iff.1 hd
    cases hc
  lookup?_iff {q h} := by
    constructor
    · intro hq
      cases q <;> cases hq
    · rintro ⟨d, hd, hr⟩
      obtain ⟨kind, rfl, -⟩ := get_bare_iff.1 hd
      cases hr
  nodup_arrays := List.nodup_nil
  nodup_references := List.nodup_nil
  count_eq := rfl

/-! ### One creation -/

variable {r r' : Registry}

/-- A request the memo has no answer to is no key of it. -/
theorem notMem_keys_of_lookup_eq_none {α β : Type} [DecidableEq α] {m : List (α × β)} {a : α}
    (h : m.lookup a = none) : a ∉ m.map Prod.fst := by
  intro ha
  obtain ⟨p, hp, rfl⟩ := List.mem_map.1 ha
  simpa using List.lookup_eq_none_iff.1 h p hp

theorem Adds.primitive_eq {q : Request Handle} {d : Descriptor} (ha : r.Adds q d r')
    (kind : Kind) : r'.primitive kind = r.primitive kind := by
  rw [primitive, primitive, ha.id_eq]

theorem Descriptor.request?_of_component? {d : Descriptor} {c : Handle}
    (hc : d.component? = some c) : d.request? = some (.arrayOf c) := by
  cases d <;> cases hc
  rfl

namespace Consistent

variable {q : Request Handle} {d : Descriptor}

theorem eq_primitive_of_adds (hr : r.Consistent) (ha : r.Adds q d r') {h : Handle} {kind : Kind}
    (hk : r'.get h = .ok (.primitive kind)) : h = r'.primitive kind := by
  rcases ha.get_iff.1 hk with hk | ⟨-, rfl⟩
  · rw [ha.primitive_eq]
    exact hr.eq_primitive hk
  · cases ha.request?_eq

theorem eq_arrayOf_of_adds (hr : r.Consistent) (ha : r.Adds q d r') {h c : Handle}
    {e : Descriptor} (he : r'.get h = .ok e) (hc : e.component? = some c) :
    ∃ b, r'.get c = .ok b ∧ e = b.arrayOf c := by
  rcases ha.get_iff.1 he with he | ⟨-, rfl⟩
  · obtain ⟨b, hb, rfl⟩ := hr.eq_arrayOf he hc
    exact ⟨b, ha.get_of_get hb, rfl⟩
  · have hq : some q = some (.arrayOf c) :=
      ha.request?_eq.symm.trans (Descriptor.request?_of_component? hc)
    obtain ⟨b, hb, rfl⟩ := ha.eq_arrayOf (Option.some.inj hq)
    exact ⟨b, ha.get_of_get hb, rfl⟩

/-- The new descriptor is the only one that answers the new request, and answers no other. -/
theorem lookup?_iff_of_adds (hr : r.Consistent) (ha : r.Adds q d r') {q' : Request Handle}
    {h : Handle} : r'.lookup? q' = some h ↔ ∃ e, r'.get h = .ok e ∧ e.request? = some q' := by
  rw [ha.lookup?_eq]
  by_cases hq : q' = q
  · subst hq
    rw [if_pos rfl]
    constructor
    · rintro ⟨⟩
      exact ⟨d, ha.get_iff.2 (.inr ⟨rfl, rfl⟩), ha.request?_eq⟩
    · rintro ⟨e, he, hreq⟩
      rcases ha.get_iff.1 he with he | ⟨rfl, -⟩
      · have hl := hr.lookup?_iff.2 ⟨e, he, hreq⟩
        rw [ha.lookup?_eq_none] at hl
        cases hl
      · rfl
  · rw [if_neg hq, hr.lookup?_iff]
    constructor
    · rintro ⟨e, he, hreq⟩
      exact ⟨e, ha.get_of_get he, hreq⟩
    · rintro ⟨e, he, hreq⟩
      rcases ha.get_iff.1 he with he | ⟨-, rfl⟩
      · exact ⟨e, he, hreq⟩
      · rw [ha.request?_eq] at hreq
        exact absurd (Option.some.inj hreq).symm hq

theorem nodup_arrays_of_creates (hr : r.Consistent) (h : r.Creates r') :
    (r'.arrays.map Prod.fst).Nodup := by
  cases h with
  | reference name hn => exact hr.nodup_arrays
  | array c e he hn => exact List.nodup_cons.2 ⟨notMem_keys_of_lookup_eq_none hn, hr.nodup_arrays⟩

theorem nodup_references_of_creates (hr : r.Consistent) (h : r.Creates r') :
    (r'.references.map Prod.fst).Nodup := by
  cases h with
  | reference name hn =>
    exact List.nodup_cons.2 ⟨notMem_keys_of_lookup_eq_none hn, hr.nodup_references⟩
  | array c e he hn => exact hr.nodup_references

theorem count_eq_of_creates (hr : r.Consistent) (h : r.Creates r') :
    r'.count = 8 + r'.arrays.length + r'.references.length := by
  have hc := hr.count_eq
  cases h with
  | reference name hn =>
    rw [count_addReference]
    simp only [addReference, List.length_cons]
    omega
  | array c e he hn =>
    rw [count_addArray]
    simp only [addArray, List.length_cons]
    omega

theorem of_creates (hr : r.Consistent) (h : r.Creates r') : r'.Consistent := by
  obtain ⟨q, d, ha⟩ := h.adds
  refine ⟨fun kind => ?_, hr.eq_primitive_of_adds ha, hr.eq_arrayOf_of_adds ha,
    hr.lookup?_iff_of_adds ha, hr.nodup_arrays_of_creates h, hr.nodup_references_of_creates h,
    hr.count_eq_of_creates h⟩
  rw [ha.primitive_eq]
  exact ha.get_of_get (hr.get_primitive kind)

theorem of_grows (hr : r.Consistent) (h : r.Grows r') : r'.Consistent :=
  h.preserves (fun hc hs => hs.of_creates hc) hr

/-! ### What the memos know -/

theorem lookup?_arrayOf_iff (hr : r.Consistent) {c a : Handle} :
    r.lookup? (.arrayOf c) = some a ↔ ∃ name bin, r.get a = .ok (.array c name bin) := by
  rw [hr.lookup?_iff]
  constructor
  · rintro ⟨d, hd, hreq⟩
    cases d <;> cases hreq
    exact ⟨_, _, hd⟩
  · rintro ⟨name, bin, hd⟩
    exact ⟨_, hd, rfl⟩

theorem lookup?_reference_iff (hr : r.Consistent) {name : String} {a : Handle} :
    r.lookup? (.reference name) = some a ↔ r.get a = .ok (.reference name) := by
  rw [hr.lookup?_iff]
  constructor
  · rintro ⟨d, hd, hreq⟩
    cases d <;> cases hreq
    exact hd
  · intro hd
    exact ⟨_, hd, rfl⟩

/-- No two requests have one answer. -/
theorem lookup?_injective (hr : r.Consistent) {q q' : Request Handle} {a : Handle}
    (h : r.lookup? q = some a) (h' : r.lookup? q' = some a) : q = q' := by
  obtain ⟨d, hd, hq⟩ := hr.lookup?_iff.1 h
  obtain ⟨d', hd', hq'⟩ := hr.lookup?_iff.1 h'
  cases hd.symm.trans hd'
  exact Option.some.inj (hq.symm.trans hq')

end Consistent

/-! ### Every registry -/

theorem consistent_fresh (id : Nat) (config : Config) : (fresh id config).Consistent :=
  (consistent_bare id).of_grows (grows_fresh id config)

theorem consistent_serve (id : Nat) (config : Config) (requests : List (Request Handle)) :
    ((fresh id config).serve requests).Consistent :=
  (consistent_fresh id config).of_grows (grows_serve _ requests)

theorem Reachable.consistent (hr : r.Reachable) : r.Consistent := by
  obtain ⟨id, hg⟩ := hr.grows_bare
  exact (consistent_bare id).of_grows hg

/-- Arena and memos after any requests to a fresh registry, of handles of its own or of
others: the primitives come first and nowhere else, a component lies below its array, and
the memos are one-to-one and list exactly the descriptors that are no primitives. -/
theorem memos_mirror_arena (id : Nat) (config : Config) (requests : List (Request Handle)) :
    let r := (fresh id config).serve requests
    (∀ slot < 8, r.entries[slot]? = Kind.all[slot]?.map Descriptor.primitive) ∧
    (∀ (slot : Nat) (kind : Kind), r.entries[slot]? = some (.primitive kind) → slot < 8) ∧
    (∀ (slot : Nat) (c : Handle) (name bin : String),
      r.entries[slot]? = some (.array c name bin) → c.owner = id ∧ c.slot < slot) ∧
    (∀ c a : Handle, r.arrays.lookup c = some a ↔
      a.owner = id ∧ ∃ name bin, r.entries[a.slot]? = some (.array c name bin)) ∧
    (∀ (name : String) (a : Handle), r.references.lookup name = some a ↔
      a.owner = id ∧ r.entries[a.slot]? = some (.reference name)) ∧
    (∀ c c' a, r.arrays.lookup c = some a → r.arrays.lookup c' = some a → c = c') ∧
    (∀ name name' a, r.references.lookup name = some a → r.references.lookup name' = some a →
      name = name') ∧
    (r.arrays.map Prod.fst).Nodup ∧ (r.references.map Prod.fst).Nodup ∧
    r.count = 8 + r.arrays.length + r.references.length := by
  intro r
  have hr : r.Consistent := consistent_serve id config requests
  have hid : r.id = id := ((grows_fresh id config).trans (grows_serve _ requests)).id_eq
  have get_iff {h : Handle} {d : Descriptor} :
      r.get h = .ok d ↔ h.owner = id ∧ r.entries[h.slot]? = some d := by
    rw [get_eq_ok_iff, hid]
  refine ⟨?_, ?_, ?_, ?_, ?_, ?_, ?_, hr.nodup_arrays, hr.nodup_references, hr.count_eq⟩
  · intro slot hs
    obtain ⟨kind, hk⟩ : ∃ kind, Kind.all[slot]? = some kind := ⟨_, List.getElem?_eq_getElem hs⟩
    rw [hk, Kind.index_of_all_getElem? hk]
    exact (get_iff.1 (hr.get_primitive kind)).2
  · intro slot kind hd
    have hp := hr.eq_primitive (get_iff.2 ⟨rfl, hd⟩ : r.get ⟨id, slot⟩ = _)
    have hs : slot = kind.index := congrArg Handle.slot hp
    rw [hs]
    exact kind.index_lt
  · intro slot c name bin hd
    obtain ⟨e, he, -⟩ := hr.eq_arrayOf (get_iff.2 ⟨rfl, hd⟩ : r.get ⟨id, slot⟩ = _) rfl
    exact ⟨(get_iff.1 he).1, r.descending slot _ c hd rfl⟩
  · intro c a
    simpa only [lookup?, get_iff, exists_and_left] using hr.lookup?_arrayOf_iff (c := c) (a := a)
  · intro name a
    rw [← get_iff, ← hr.lookup?_reference_iff, lookup?]
  · intro c c' a h h'
    have hq : Request.arrayOf c = .arrayOf c' := hr.lookup?_injective h h'
    exact Request.arrayOf.inj hq
  · intro name name' a h h'
    have hq : Request.reference name = .reference name' := hr.lookup?_injective h h'
    exact Request.reference.inj hq

end Registry

end ArrayTypes
