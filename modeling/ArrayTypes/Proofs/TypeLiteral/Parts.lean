import ArrayTypes.TypeLiteral
import Mathlib.Data.Set.Card
import Mathlib.Order.Interval.Finset.Nat

/-! The parts of types: what is left of an array type when levels are taken off it. Of one
type there are as many parts as it has levels and one more, and those that a set is without
are counted by their levels. -/

namespace ArrayTypes.TypeLiteral

/-- A type of the set, or the component of a part. -/
inductive IsPart (types : Set TypeLiteral) : TypeLiteral → Prop
  | self {t : TypeLiteral} (ht : t ∈ types) : IsPart types t
  | component {e : Element} {n : Nat} (ht : IsPart types ⟨e, n + 1⟩) : IsPart types ⟨e, n⟩

/-- The types with their components, the components of these, and so on. -/
def parts (types : Set TypeLiteral) : Set TypeLiteral :=
  {t | IsPart types t}

variable {S : Set TypeLiteral} {t : TypeLiteral} {e : Element} {d m n : Nat}

theorem IsPart.exists_le (ht : IsPart S t) : ∃ m, t.dimensions ≤ m ∧ ⟨t.element, m⟩ ∈ S := by
  induction ht with
  | self ht => exact ⟨_, le_rfl, ht⟩
  | component _ ih =>
    obtain ⟨m, hm, hS⟩ := ih
    exact ⟨m, Nat.le_of_succ_le hm, hS⟩

theorem IsPart.of_le (ht : IsPart S ⟨e, m⟩) (hle : n ≤ m) : IsPart S ⟨e, n⟩ := by
  induction hle with
  | refl => exact ht
  | step _ ih => exact ih ht.component

/-- The parts are what is left when levels are taken off. -/
theorem mem_parts_iff : ⟨e, n⟩ ∈ parts S ↔ ∃ m, n ≤ m ∧ ⟨e, m⟩ ∈ S := by
  constructor
  · exact fun ht => ht.exists_le
  · rintro ⟨m, hle, hm⟩
    exact (IsPart.self hm).of_le hle

@[simp] theorem parts_empty : parts ∅ = ∅ := by
  ext ⟨e, n⟩
  simp [mem_parts_iff]

theorem parts_union (S T : Set TypeLiteral) : parts (S ∪ T) = parts S ∪ parts T := by
  ext ⟨e, n⟩
  simp only [Set.mem_union, mem_parts_iff, and_or_left, exists_or]

theorem mem_parts_iff_exists : t ∈ parts S ↔ ∃ u ∈ S, t ∈ parts {u} := by
  obtain ⟨e, n⟩ := t
  simp only [mem_parts_iff, Set.mem_singleton_iff]
  constructor
  · rintro ⟨m, hle, hm⟩
    exact ⟨_, hm, m, hle, rfl⟩
  · rintro ⟨_, hm, m, hle, rfl⟩
    exact ⟨m, hle, hm⟩

theorem mem_parts_singleton_iff : t ∈ parts {⟨e, n⟩} ↔ t.element = e ∧ t.dimensions ≤ n := by
  obtain ⟨f, m⟩ := t
  simp [mem_parts_iff, and_comm]

/-- The parts of a type that are not in a set are counted by their levels. -/
theorem ncard_parts_sdiff {levels : Finset Nat}
    (h : ∀ m, m ∈ levels ↔ m ≤ n ∧ ⟨e, m⟩ ∉ S) :
    (parts {⟨e, n⟩} \ S).ncard = levels.card := by
  have himage : parts {⟨e, n⟩} \ S = TypeLiteral.mk e '' levels := by
    ext ⟨f, m⟩
    simp only [Set.mem_sdiff, mem_parts_singleton_iff, Set.mem_image, Finset.mem_coe, h,
      TypeLiteral.mk.injEq]
    constructor
    · rintro ⟨⟨rfl, hle⟩, hS⟩
      exact ⟨m, ⟨hle, hS⟩, rfl, rfl⟩
    · rintro ⟨_, ⟨hle, hS⟩, rfl, rfl⟩
      exact ⟨⟨rfl, hle⟩, hS⟩
  have hinj : Function.Injective (TypeLiteral.mk e) := fun _ _ h => congrArg dimensions h
  rw [himage, Set.ncard_image_of_injective _ hinj, Set.ncard_coe_finset]

/-- Of the levels up to `n` those above `d` are missing. -/
theorem ncard_parts_sdiff_of_le_iff (h : ∀ m, ⟨e, m⟩ ∈ S ↔ m ≤ d) :
    (parts {⟨e, n⟩} \ S).ncard = n - d := by
  have hlevels : ∀ m, m ∈ Finset.Ioc d n ↔ m ≤ n ∧ ⟨e, m⟩ ∉ S := by
    intro m
    rw [Finset.mem_Ioc, h, and_comm, Nat.not_le]
  rw [ncard_parts_sdiff hlevels, Nat.card_Ioc]

theorem ncard_parts_sdiff_of_forall_notMem (h : ∀ m, ⟨e, m⟩ ∉ S) :
    (parts {⟨e, n⟩} \ S).ncard = n + 1 := by
  have hlevels : ∀ m, m ∈ Finset.Iic n ↔ m ≤ n ∧ ⟨e, m⟩ ∉ S := by
    intro m
    rw [Finset.mem_Iic, and_iff_left (h m)]
  rw [ncard_parts_sdiff hlevels, Nat.card_Iic]

end ArrayTypes.TypeLiteral
