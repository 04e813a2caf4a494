import Mathlib.Data.List.Forall2

/-! Options and lists that are related entry by entry. What is looked up in related places is
related, and a relation that matches each thing with one thing does so for options too. -/

namespace ArrayTypes

variable {α β γ δ : Type} {R : α → β → Prop} {S : γ → δ → Prop}

/-! ### Options -/

theorem eq_none_of_optionRel {b : Option β} (h : Option.Rel R none b) : b = none := by
  cases h
  rfl

theorem exists_of_optionRel_some {a : α} {b : Option β} (h : Option.Rel R (some a) b) :
    ∃ y, b = some y ∧ R a y := by
  cases h with
  | some h => exact ⟨_, rfl, h⟩

theorem exists_of_optionRel_some_right {a : Option α} {b : β} (h : Option.Rel R a (some b)) :
    ∃ x, a = some x ∧ R x b := by
  cases h with
  | some h => exact ⟨_, rfl, h⟩

theorem optionRel_bind {a : Option α} {b : Option β} {k : α → Option γ} {k' : β → Option δ}
    (h : Option.Rel R a b) (hk : ∀ x y, R x y → Option.Rel S (k x) (k' y)) :
    Option.Rel S (a.bind k) (b.bind k') := by
  cases h with
  | none => exact .none
  | some h => exact hk _ _ h

theorem optionRel_or {a a' : Option α} {b b' : Option β} (h : Option.Rel R a b)
    (h' : Option.Rel R a' b') : Option.Rel R (a.or a') (b.or b') := by
  cases h with
  | none => exact h'
  | some h => exact .some h

theorem biUnique_optionRel (hR : Relator.BiUnique R) : Relator.BiUnique (Option.Rel R) := by
  constructor
  · rintro a b c (hac | _) (hbc | _)
    · exact congrArg some (hR.1 hac hbc)
    · rfl
  · rintro a b c (hab | _) (hac | _)
    · exact congrArg some (hR.2 hab hac)
    · rfl

/-! ### Lists -/

theorem optionRel_getElem? {as : List α} {bs : List β} (h : List.Forall₂ R as bs) (i : Nat) :
    Option.Rel R as[i]? bs[i]? := by
  induction h generalizing i with
  | nil => exact .none
  | cons hab _ ih =>
    cases i with
    | zero => exact .some hab
    | succ i => exact ih i

theorem forall₂_set {as : List α} {bs : List β} {a : α} {b : β} (h : List.Forall₂ R as bs)
    (hab : R a b) (i : Nat) : List.Forall₂ R (as.set i a) (bs.set i b) := by
  induction h generalizing i with
  | nil => exact .nil
  | cons hxy hrest ih =>
    cases i with
    | zero => exact .cons hab hrest
    | succ i => exact .cons hxy (ih i)

theorem optionRel_lookup {as : List (String × α)} {bs : List (String × β)}
    (h : List.Forall₂ (fun a b => a.1 = b.1 ∧ R a.2 b.2) as bs) (name : String) :
    Option.Rel R (as.lookup name) (bs.lookup name) := by
  induction h with
  | nil => exact .none
  | @cons a b as bs hab _ ih =>
    obtain ⟨x, v⟩ := a
    obtain ⟨y, w⟩ := b
    obtain ⟨hxy, hvw⟩ := hab
    dsimp only at hxy hvw
    subst hxy
    rw [List.lookup_cons, List.lookup_cons]
    split
    · exact .some hvw
    · exact ih

theorem forall₂_rotateRight {as : List α} {bs : List β} (h : List.Forall₂ R as bs) (i : Nat) :
    List.Forall₂ R (as.rotateRight i) (bs.rotateRight i) := by
  unfold List.rotateRight
  simp only [h.length_eq]
  split
  · exact h
  · exact List.rel_append (List.forall₂_drop _ h) (List.forall₂_take _ h)

end ArrayTypes
