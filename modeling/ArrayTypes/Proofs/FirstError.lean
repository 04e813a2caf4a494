import Mathlib.Data.List.Forall2

/-! Computations that may fail. One after the other they end at the first that fails, with its
error; what comes before it has results, and what comes after it does not matter. -/

namespace ArrayTypes

variable {α β ε : Type} {x : Except ε α} {a : α} {e : ε}

/-! ### One after another -/

theorem map_eq_ok_iff {g : α → β} {b : β} : g <$> x = .ok b ↔ ∃ a, x = .ok a ∧ g a = b := by
  cases x <;> simp [Functor.map, Except.map]

theorem map_eq_error_iff {g : α → β} : g <$> x = .error e ↔ x = .error e := by
  cases x <;> simp [Functor.map, Except.map]

theorem bind_eq_ok_iff {g : α → Except ε β} {b : β} :
    x >>= g = .ok b ↔ ∃ a, x = .ok a ∧ g a = .ok b := by
  cases x <;> simp [bind, Except.bind]

theorem bind_eq_error_iff {g : α → Except ε β} :
    x >>= g = .error e ↔ x = .error e ∨ ∃ a, x = .ok a ∧ g a = .error e := by
  cases x <;> simp [bind, Except.bind]

theorem toOption_eq_some_iff : x.toOption = some a ↔ x = .ok a := by
  cases x <;> simp [Except.toOption]

/-! ### One for each entry of a list -/

variable {f : α → Except ε β}

theorem mapM_eq_ok_iff {as : List α} {bs : List β} :
    as.mapM f = .ok bs ↔ List.Forall₂ (fun a b => f a = .ok b) as bs := by
  induction as generalizing bs with
  | nil =>
    rw [List.mapM_nil, List.forall₂_nil_left_iff]
    simp [pure, Except.pure, eq_comm]
  | cons a as ih =>
    rw [List.mapM_cons, List.forall₂_cons_left_iff]
    simp only [bind_eq_ok_iff, ih]
    constructor
    · rintro ⟨b, hb, rest, hrest, h⟩
      cases h
      exact ⟨b, rest, hb, hrest, rfl⟩
    · rintro ⟨b, rest, hb, hrest, rfl⟩
      exact ⟨b, hb, rest, hrest, rfl⟩

theorem exists_mapM_eq_ok_iff {as : List α} :
    (∃ bs, as.mapM f = .ok bs) ↔ ∀ a ∈ as, ∃ b, f a = .ok b := by
  simp only [mapM_eq_ok_iff]
  induction as with
  | nil => simp
  | cons a as ih => simp [List.forall₂_cons_left_iff, ← ih]

theorem mapM_eq_error_iff {as : List α} :
    as.mapM f = .error e ↔ ∃ before a after, as = before ++ a :: after ∧
      (∀ a' ∈ before, ∃ b, f a' = .ok b) ∧ f a = .error e := by
  induction as with
  | nil => simp [pure, Except.pure]
  | cons a as ih =>
    rw [List.mapM_cons, bind_eq_error_iff]
    simp only [bind_eq_error_iff, ih]
    constructor
    · rintro (ha | ⟨b, hb, ⟨before, a', after, rfl, hbefore, ha'⟩ | ⟨_, -, h⟩⟩)
      · exact ⟨[], a, as, rfl, by simp, ha⟩
      · exact ⟨a :: before, a', after, rfl, by simpa using ⟨⟨b, hb⟩, hbefore⟩, ha'⟩
      · cases h
    · rintro ⟨before, a', after, has, hbefore, ha'⟩
      cases before with
      | nil =>
        cases has
        exact .inl ha'
      | cons first before =>
        cases has
        obtain ⟨b, hb⟩ := hbefore a List.mem_cons_self
        refine .inr ⟨b, hb, .inl ⟨before, a', after, rfl, fun c hc => ?_, ha'⟩⟩
        exact hbefore c (List.mem_cons_of_mem _ hc)

end ArrayTypes
