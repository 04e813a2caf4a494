import ArrayTypes.Call
import ArrayTypes.Proofs.Registry.Denotation

/-! Assignability on types. The check follows two chains of components with a shortcut at
equal handles; what it comes to can be told from the two types at once: their levels are
compared, and the rest is a matter of their elements. The hierarchy is asked once at most,
in the last step. -/

namespace ArrayTypes

namespace TypeLiteral

/-- The rule, with no recursion. -/
def judge (source target : TypeLiteral) : Judgement :=
  if source = target then .known true
  else
    match target.element with
    | .primitive _ => .known false
    | .reference super =>
      if target.dimensions < source.dimensions then .asks (.arraySupertype super)
      else if source.dimensions < target.dimensions then .known false
      else
        match source.element with
        | .primitive _ => .known false
        | .reference sub => .asks (.subclass sub super)

theorem judge_self (t : TypeLiteral) : t.judge t = .known true := by
  rw [judge, if_pos rfl]

theorem judge_to_primitive {e : Element} {kind : Kind} {m n : Nat}
    (h : (⟨e, m⟩ : TypeLiteral) ≠ ⟨.primitive kind, n⟩) :
    judge ⟨e, m⟩ ⟨.primitive kind, n⟩ = .known false := by
  rw [judge, if_neg h]

theorem judge_of_lt {e f : Element} {m n : Nat} (h : m < n) :
    judge ⟨e, m⟩ ⟨f, n⟩ = .known false := by
  have hne : (⟨e, m⟩ : TypeLiteral) ≠ ⟨f, n⟩ := by
    simp only [ne_eq, TypeLiteral.mk.injEq]
    omega
  cases f with
  | primitive kind => exact judge_to_primitive hne
  | reference super =>
    have hnot : ¬n < m := by omega
    simp only [judge, hne, hnot, h, if_true, if_false]

theorem judge_of_gt {e : Element} {super : String} {m n : Nat} (h : n < m) :
    judge ⟨e, m⟩ ⟨.reference super, n⟩ = .asks (.arraySupertype super) := by
  have hne : (⟨e, m⟩ : TypeLiteral) ≠ ⟨.reference super, n⟩ := by
    simp only [ne_eq, TypeLiteral.mk.injEq]
    omega
  simp only [judge, hne, h, if_true, if_false]

theorem judge_primitive {kind : Kind} {f : Element} {m n : Nat}
    (h : (⟨.primitive kind, m⟩ : TypeLiteral) ≠ ⟨f, n⟩) (hle : m ≤ n) :
    judge ⟨.primitive kind, m⟩ ⟨f, n⟩ = .known false := by
  rcases Nat.lt_or_eq_of_le hle with hlt | rfl
  · exact judge_of_lt hlt
  · cases f with
    | primitive kind' => exact judge_to_primitive h
    | reference super => simp [judge]

theorem judge_references {sub super : String} (h : sub ≠ super) (n : Nat) :
    judge ⟨.reference sub, n⟩ ⟨.reference super, n⟩ = .asks (.subclass sub super) := by
  simp [judge, h]

/-- A level more on both sides changes nothing. -/
theorem judge_succ (e f : Element) (m n : Nat) :
    judge ⟨e, m + 1⟩ ⟨f, n + 1⟩ = judge ⟨e, m⟩ ⟨f, n⟩ := by
  simp only [judge, TypeLiteral.mk.injEq, Nat.add_right_cancel_iff, Nat.add_lt_add_iff_right]

end TypeLiteral

namespace Registry

variable {r : Registry} {source target : Handle}

theorem judge_self (r : Registry) (h : Handle) : r.judge h h = .ok (.known true) := by
  rw [judge, if_pos rfl]

/-! ### One step of the check -/

/-- Of two array classes the components are looked up in turn. -/
theorem judge_components (hne : source ≠ target) {c c' : Handle} {name bin name' bin' : String}
    (hs : r.get source = .ok (.array c name bin)) (ht : r.get target = .ok (.array c' name' bin')) :
    r.judge source target =
      (do let d ← r.get c
          let d' ← r.get c'
          if d.isReferenceTyped && d'.isReferenceTyped then r.judge c c'
          else .ok (.known (c = c'))) := by
  rw [judge, if_neg hne]
  split
  case h_3 hs' ht' =>
    cases hs.symm.trans hs'
    cases ht.symm.trans ht'
    cases r.get c <;> cases r.get c' <;> rfl
  all_goals grind

theorem judge_of_arrays (hne : source ≠ target) {c c' : Handle} {name bin name' bin' : String}
    (hs : r.get source = .ok (.array c name bin)) (ht : r.get target = .ok (.array c' name' bin'))
    {d d' : Descriptor} (hd : r.get c = .ok d) (hd' : r.get c' = .ok d') :
    r.judge source target =
      if d.isReferenceTyped && d'.isReferenceTyped then r.judge c c'
      else .ok (.known (c = c')) := by
  rw [judge_components hne hs ht, hd, hd']
  rfl

theorem judge_of_references (hne : source ≠ target) {sub super : String}
    (hs : r.get source = .ok (.reference sub)) (ht : r.get target = .ok (.reference super)) :
    r.judge source target = .ok (.asks (.subclass sub super)) := by
  rw [judge, if_neg hne]
  split <;> grind

theorem judge_of_array_reference (hne : source ≠ target) {c : Handle} {name bin super : String}
    (hs : r.get source = .ok (.array c name bin)) (ht : r.get target = .ok (.reference super)) :
    r.judge source target = .ok (.asks (.arraySupertype super)) := by
  rw [judge, if_neg hne]
  split <;> grind

/-- A primitive on either side, or an array where a class is given. -/
theorem judge_of_mismatch (hne : source ≠ target) {d e : Descriptor} (hs : r.get source = .ok d)
    (ht : r.get target = .ok e)
    (hde : d.isPrimitive ∨ e.isPrimitive ∨ d.isArray = false ∧ e.isArray) :
    r.judge source target = .ok (.known false) := by
  rw [judge, if_neg hne]
  split <;> grind [Descriptor.isPrimitive, Descriptor.isArray]

/-! ### The whole check -/

/-- What is not of a reference type is a primitive. -/
theorem Denotes.eq_primitive {h : Handle} {t : TypeLiteral} (ht : r.Denotes h t) {d : Descriptor}
    (hd : r.get h = .ok d) (hp : d.isReferenceTyped = false) :
    ∃ kind, t = ⟨.primitive kind, 0⟩ := by
  cases d with
  | primitive kind => exact ⟨kind, ht.unique (.primitive hd)⟩
  | array | reference => cases hp

/-- A primitive and another type are not assignable either way. -/
theorem judge_eq_known_false {c c' : Handle} {s t : TypeLiteral} (hc : r.Denotes c s)
    (hc' : r.Denotes c' t) (hst : s ≠ t) {d d' : Descriptor} (hd : r.get c = .ok d)
    (hd' : r.get c' = .ok d') (hp : ¬(d.isReferenceTyped && d'.isReferenceTyped) = true) :
    s.judge t = .known false := by
  rw [Bool.and_eq_true, not_and_or, Bool.not_eq_true, Bool.not_eq_true] at hp
  rcases hp with hp | hp
  · obtain ⟨kind, rfl⟩ := hc.eq_primitive hd hp
    exact TypeLiteral.judge_primitive hst (Nat.zero_le _)
  · obtain ⟨kind, rfl⟩ := hc'.eq_primitive hd' hp
    exact TypeLiteral.judge_to_primitive hst

theorem judge_eq_of_ne (hr : r.Consistent) {s t : TypeLiteral} (hs : r.Denotes source s)
    (ht : r.Denotes target t) (hst : s ≠ t) : r.judge source target = .ok (s.judge t) := by
  have hne : source ≠ target := fun h => hst ((hs.eq_iff hr ht).1 h)
  induction hs generalizing target t with
  | primitive hd =>
    obtain ⟨d', hd'⟩ := ht.exists_get
    rw [judge_of_mismatch hne hd hd' (.inl rfl), TypeLiteral.judge_primitive hst (Nat.zero_le _)]
  | reference hd =>
    cases ht with
    | primitive hd' =>
      rw [judge_of_mismatch hne hd hd' (.inr (.inl rfl)), TypeLiteral.judge_to_primitive hst]
    | reference hd' =>
      rw [judge_of_references hne hd hd', TypeLiteral.judge_references (by simpa using hst)]
    | array hd' _ =>
      rw [judge_of_mismatch hne hd hd' (.inr (.inr ⟨rfl, rfl⟩)),
        TypeLiteral.judge_of_lt (Nat.succ_pos _)]
  | @array h c name bin e m hd hc ih =>
    cases ht with
    | primitive hd' =>
      rw [judge_of_mismatch hne hd hd' (.inr (.inl rfl)), TypeLiteral.judge_to_primitive hst]
    | reference hd' =>
      rw [judge_of_array_reference hne hd hd', TypeLiteral.judge_of_gt (Nat.succ_pos _)]
    | @array _ c' name' bin' f n hd' hc' =>
      -- the types of the components differ as the types themselves do
      have hst' : (⟨e, m⟩ : TypeLiteral) ≠ ⟨f, n⟩ := by
        simpa only [ne_eq, TypeLiteral.mk.injEq, Nat.add_right_cancel_iff] using hst
      have hcc : c ≠ c' := fun h => hst' ((hc.eq_iff hr hc').1 h)
      obtain ⟨b, hb⟩ := hc.exists_get
      obtain ⟨b', hb'⟩ := hc'.exists_get
      rw [judge_of_arrays hne hd hd' hb hb', TypeLiteral.judge_succ]
      split
      · exact ih hc' hst' hcc
      next hp => rw [judge_eq_known_false hc hc' hst' hb hb' hp, decide_eq_false hcc]

/-- The check along the two chains comes to the rule on the two types. -/
theorem judge_eq (hr : r.Consistent) {s t : TypeLiteral} (hs : r.Denotes source s)
    (ht : r.Denotes target t) : r.judge source target = .ok (s.judge t) := by
  by_cases hst : s = t
  · subst hst
    rw [hs.injective hr ht, judge_self, TypeLiteral.judge_self]
  · exact judge_eq_of_ne hr hs ht hst

theorem isAssignable_eq {H : Hierarchy} (hr : r.Consistent) {s t : TypeLiteral}
    (hs : r.Denotes source s) (ht : r.Denotes target t) :
    r.isAssignable H source target = .ok ((s.judge t).answer H) :=
  bind_eq_ok_iff.2 ⟨_, judge_eq hr hs ht, rfl⟩

/-- Assignability in closed form, with all that it asks of the hierarchy `H`, of which nothing
is assumed: one question where the answer is the hierarchy's, and none where it is known. -/
theorem assignable_by_types (hr : r.Reachable) {e f : Element} {m n : Nat}
    (hs : r.denotation source = .ok ⟨e, m⟩) (ht : r.denotation target = .ok ⟨f, n⟩)
    (H : Hierarchy) :
    ∃ b questions, r.isAssignable H source target = .ok b ∧
      r.perform (.assignable source target H) = .ok (.assignable b questions, r) ∧
      ((e, m) = (f, n) → b = true ∧ questions = []) ∧
      (∀ sub super, m = n → e = .reference sub → f = .reference super → sub ≠ super →
        b = H.isSubclass sub super ∧ questions = [.subclass sub super]) ∧
      (∀ super, n < m → f = .reference super →
        b = H.isArraySupertype super ∧ questions = [.arraySupertype super]) ∧
      ((e, m) ≠ (f, n) →
        (m < n ∨ (∃ kind, f = .primitive kind) ∨ m = n ∧ ∃ kind, e = .primitive kind) →
        b = false ∧ questions = []) := by
  have hj : r.judge source target = .ok (TypeLiteral.judge ⟨e, m⟩ ⟨f, n⟩) :=
    judge_eq hr.consistent (denotation_eq_ok_iff.1 hs) (denotation_eq_ok_iff.1 ht)
  refine ⟨_, _, by rw [isAssignable, hj]; rfl, by rw [perform, hj]; rfl,
    ?_, ?_, ?_, ?_⟩
  · rintro ⟨⟩
    rw [TypeLiteral.judge_self]
    exact ⟨rfl, rfl⟩
  · rintro sub super rfl rfl rfl hne
    rw [TypeLiteral.judge_references hne]
    exact ⟨rfl, rfl⟩
  · rintro super hlt rfl
    rw [TypeLiteral.judge_of_gt hlt]
    exact ⟨rfl, rfl⟩
  · intro hne hcase
    have hne' : (⟨e, m⟩ : TypeLiteral) ≠ ⟨f, n⟩ := by
      simpa only [ne_eq, Prod.mk.injEq, TypeLiteral.mk.injEq] using hne
    have hknown : TypeLiteral.judge ⟨e, m⟩ ⟨f, n⟩ = .known false := by
      rcases hcase with hlt | ⟨kind, rfl⟩ | ⟨hmn, kind, rfl⟩
      · exact TypeLiteral.judge_of_lt hlt
      · exact TypeLiteral.judge_to_primitive hne'
      · exact TypeLiteral.judge_primitive hne' hmn.le
    rw [hknown]
    exact ⟨rfl, rfl⟩

/-- An array of arrays of dogs where an object is expected. -/
theorem dog_arrays_ask_for_object :
    let r := (fresh 0 { preload := false }).after
      ((fresh 0 { preload := false }).perform (.resolve ⟨.reference "Dog", 2⟩))
    let r' := r.after (r.perform (.reference "Object"))
    r'.Reachable ∧ r'.denotation ⟨0, 10⟩ = .ok ⟨.reference "Dog", 2⟩ ∧
    r'.denotation ⟨0, 11⟩ = .ok ⟨.reference "Object", 0⟩ ∧
    ∀ H : Hierarchy, r'.isAssignable H ⟨0, 10⟩ ⟨0, 11⟩ = .ok (H.isArraySupertype "Object") ∧
      r'.perform (.assignable ⟨0, 10⟩ ⟨0, 11⟩ H) =
        .ok (.assignable (H.isArraySupertype "Object") [.arraySupertype "Object"], r') := by
  intro r r'
  have hr : r'.Reachable := .call (.call (.fresh 0 _) _) _
  have hs : r'.denotation ⟨0, 10⟩ = .ok ⟨.reference "Dog", 2⟩ :=
    denotation_eq_ok_iff.2 (.array rfl (.array rfl (.reference rfl)))
  have ht : r'.denotation ⟨0, 11⟩ = .ok ⟨.reference "Object", 0⟩ :=
    denotation_eq_ok_iff.2 (.reference rfl)
  refine ⟨hr, hs, ht, fun H => ?_⟩
  obtain ⟨b, questions, hb, hp, -, -, hsuper, -⟩ := assignable_by_types hr hs ht H
  obtain ⟨rfl, rfl⟩ := hsuper "Object" (by decide) rfl
  exact ⟨hb, hp⟩

end Registry

end ArrayTypes
