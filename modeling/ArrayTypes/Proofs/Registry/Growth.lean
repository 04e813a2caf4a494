import ArrayTypes.Concurrency
import ArrayTypes.Call
import ArrayTypes.Proofs.FirstError
import Mathlib.Logic.Relation

/-! What calls do to a registry. A creation adds one descriptor that the memos do not
know yet, and every call amounts to some number of creations, none if it fails. Whatever
holds in a fresh registry and is kept by one creation therefore holds for ever. -/

namespace ArrayTypes

/-- The request that a descriptor answers; the primitives are never requested. -/
def Descriptor.request? : Descriptor → Option (Request Handle)
  | primitive _ => none
  | array component _ _ => some (.arrayOf component)
  | reference name => some (.reference name)

namespace Registry

/-- One creation. -/
inductive Creates (r : Registry) : Registry → Prop
  | reference (name : String) (hn : r.lookup? (.reference name) = none) :
    Creates r (r.addReference name)
  | array (c : Handle) (d : Descriptor) (hd : r.get c = .ok d)
    (hn : r.lookup? (.arrayOf c) = none) : Creates r (r.addArray c d hd)

/-- Any number of creations. -/
def Grows : Registry → Registry → Prop :=
  Relation.ReflTransGen Creates

variable {r r' : Registry}

/-! ### What one creation adds -/

/-- `r'` is `r` with the descriptor `d` in the next slot, known to the memo as the answer
to `q`. All else is as in `r`. -/
structure Adds (r : Registry) (q : Request Handle) (d : Descriptor) (r' : Registry) : Prop where
  id_eq : r'.id = r.id
  request?_eq : d.request? = some q
  lookup?_eq_none : r.lookup? q = none
  eq_arrayOf : ∀ {c : Handle}, q = .arrayOf c → ∃ e, r.get c = .ok e ∧ d = e.arrayOf c
  entries_eq : r'.entries = r.entries.push d
  lookup?_eq : ∀ q', r'.lookup? q' = if q' = q then some r.next else r.lookup? q'

theorem adds_addReference {name : String} (hn : r.lookup? (.reference name) = none) :
    r.Adds (.reference name) (.reference name) (r.addReference name) where
  id_eq := rfl
  request?_eq := rfl
  lookup?_eq_none := hn
  eq_arrayOf := by simp
  entries_eq := rfl
  lookup?_eq q' := by
    cases q' with
    | reference s =>
      by_cases hs : s = name
      · subst hs; simp [lookup?, addReference]
      · simp [lookup?, addReference, List.lookup_cons, hs, beq_eq_false_iff_ne.2 hs]
    | arrayOf c => simp [lookup?, addReference]

theorem adds_addArray {c : Handle} {e : Descriptor} (he : r.get c = .ok e)
    (hn : r.lookup? (.arrayOf c) = none) :
    r.Adds (.arrayOf c) (e.arrayOf c) (r.addArray c e he) where
  id_eq := rfl
  request?_eq := rfl
  lookup?_eq_none := hn
  eq_arrayOf hc := by cases hc; exact ⟨e, he, rfl⟩
  entries_eq := rfl
  lookup?_eq q' := by
    cases q' with
    | reference s => simp [lookup?, addArray]
    | arrayOf c' =>
      by_cases hc : c' = c
      · subst hc; simp [lookup?, addArray]
      · simp [lookup?, addArray, List.lookup_cons, hc, beq_eq_false_iff_ne.2 hc]

theorem Creates.adds (h : r.Creates r') : ∃ q d, r.Adds q d r' := by
  cases h with
  | reference name hn => exact ⟨_, _, adds_addReference hn⟩
  | array c e he hn => exact ⟨_, _, adds_addArray he hn⟩

theorem Creates.count_eq (h : r.Creates r') : r'.count = r.count + 1 := by
  cases h with
  | reference name hn => exact count_addReference r name
  | array c e he hn => exact count_addArray r c e he

namespace Adds

variable {q : Request Handle} {d : Descriptor}

theorem get_iff (h : r.Adds q d r') {g : Handle} {e : Descriptor} :
    r'.get g = .ok e ↔ r.get g = .ok e ∨ g = r.next ∧ e = d := by
  rw [get_eq_ok_iff, get_eq_ok_iff, h.id_eq, h.entries_eq, Array.getElem?_push]
  constructor
  · rintro ⟨ho, he⟩
    split at he
    next hs =>
      have hg : g = r.next := by rw [next, ← ho, ← hs]
      exact .inr ⟨hg, (Option.some.inj he).symm⟩
    · exact .inl ⟨ho, he⟩
  · rintro (⟨ho, he⟩ | ⟨rfl, rfl⟩)
    · have hs : g.slot < r.entries.size := (Array.getElem?_eq_some_iff.1 he).1
      exact ⟨ho, by rw [if_neg (by omega), he]⟩
    · simp [next]

theorem get_of_get (h : r.Adds q d r') {g : Handle} {e : Descriptor} (hg : r.get g = .ok e) :
    r'.get g = .ok e :=
  h.get_iff.2 (.inl hg)

/-- The memo keeps its answers, since only a request without one adds to it. -/
theorem lookup?_of_lookup? (h : r.Adds q d r') {q' : Request Handle} {g : Handle}
    (hg : r.lookup? q' = some g) : r'.lookup? q' = some g := by
  have hq : q' ≠ q := by
    rintro rfl
    simp [h.lookup?_eq_none] at hg
  rw [h.lookup?_eq, if_neg hq, hg]

end Adds

/-! ### What any number of creations keeps -/

namespace Grows

theorem refl (r : Registry) : r.Grows r :=
  Relation.ReflTransGen.refl

theorem trans {r₁ r₂ r₃ : Registry} (h : r₁.Grows r₂) (h' : r₂.Grows r₃) : r₁.Grows r₃ :=
  Relation.ReflTransGen.trans h h'

theorem of_creates (h : r.Creates r') : r.Grows r' :=
  Relation.ReflTransGen.single h

/-- What every creation keeps is kept. -/
theorem preserves {P : Registry → Prop} (hP : ∀ {r r' : Registry}, r.Creates r' → P r → P r')
    (h : r.Grows r') (hr : P r) : P r' := by
  induction h with
  | refl => exact hr
  | tail _ hc ih => exact hP hc ih

theorem id_eq (h : r.Grows r') : r'.id = r.id := by
  refine h.preserves (P := fun s => s.id = r.id) (fun hc hs => ?_) rfl
  obtain ⟨q, d, ha⟩ := hc.adds
  rw [ha.id_eq, hs]

theorem get_of_get (h : r.Grows r') {g : Handle} {d : Descriptor} (hg : r.get g = .ok d) :
    r'.get g = .ok d := by
  refine h.preserves (P := fun s => s.get g = .ok d) (fun hc hs => ?_) hg
  obtain ⟨q, e, ha⟩ := hc.adds
  exact ha.get_of_get hs

theorem lookup?_of_lookup? (h : r.Grows r') {q : Request Handle} {g : Handle}
    (hg : r.lookup? q = some g) : r'.lookup? q = some g := by
  refine h.preserves (P := fun s => s.lookup? q = some g) (fun hc hs => ?_) hg
  obtain ⟨q', e, ha⟩ := hc.adds
  exact ha.lookup?_of_lookup? hs

theorem eq_or_count_lt (h : r.Grows r') : r' = r ∨ r.count < r'.count := by
  refine h.preserves (P := fun s => s = r ∨ r.count < s.count) (fun hc hs => .inr ?_) (.inl rfl)
  rw [hc.count_eq]
  rcases hs with rfl | hlt
  · exact Nat.lt_succ_self _
  · exact Nat.lt_succ_of_lt hlt

end Grows

/-! ### Every call is made of creations -/

/-- A request is answered from the memo, or by one creation that the memo then knows. -/
theorem obtain_cases {q : Request Handle} {h : Handle} (hq : r.obtain q = .ok (h, r')) :
    r.lookup? q = some h ∧ r' = r ∨
      r.lookup? q = none ∧ r.Creates r' ∧ r'.lookup? q = some h := by
  cases q with
  | reference name =>
    simp only [obtain, reference] at hq
    split at hq
    · cases hq
      exact .inl ⟨‹_›, rfl⟩
    · cases hq
      have hn : r.lookup? (.reference name) = none := ‹_›
      exact .inr ⟨hn, .reference name hn, by simp [(adds_addReference hn).lookup?_eq]⟩
  | arrayOf c =>
    simp only [obtain, arrayOf] at hq
    split at hq
    · cases hq
      exact .inl ⟨‹_›, rfl⟩
    next hn =>
      split at hq
      · cases hq
      next d hd =>
        cases hq
        exact .inr ⟨hn, .array c d hd hn, by simp [(adds_addArray hd hn).lookup?_eq]⟩

/-- A request that the memo can answer creates nothing. -/
theorem obtain_of_lookup? {q : Request Handle} {h : Handle} (hl : r.lookup? q = some h) :
    r.obtain q = .ok (h, r) := by
  cases q with
  | reference name => simp only [obtain, reference, hl]
  | arrayOf c =>
    simp only [obtain, arrayOf]
    split
    next h' hl' => cases hl.symm.trans hl'; rfl
    next hn => cases hl.symm.trans hn

theorem lookup?_of_obtain {q : Request Handle} {h : Handle} (hq : r.obtain q = .ok (h, r')) :
    r'.lookup? q = some h := by
  rcases obtain_cases hq with ⟨hl, rfl⟩ | ⟨-, -, hl⟩ <;> exact hl

theorem grows_of_obtain {q : Request Handle} {h : Handle} (hq : r.obtain q = .ok (h, r')) :
    r.Grows r' := by
  rcases obtain_cases hq with ⟨-, rfl⟩ | ⟨-, hc, -⟩
  · exact .refl r'
  · exact .of_creates hc

theorem grows_after_obtain (r : Registry) (q : Request Handle) :
    r.Grows (r.after (r.obtain q)) := by
  cases hq : r.obtain q with
  | ok p => exact grows_of_obtain hq
  | error e => exact .refl r

theorem grows_serve (r : Registry) (requests : List (Request Handle)) :
    r.Grows (r.serve requests) := by
  induction requests generalizing r with
  | nil => exact .refl r
  | cons q requests ih => exact (grows_after_obtain r q).trans (ih _)

/-! ### Composite requests -/

theorem grows_reference (r : Registry) (name : String) : r.Grows (r.reference name).2 :=
  grows_of_obtain (q := .reference name) rfl

theorem grows_of_arrayOf {c h : Handle} (hc : r.arrayOf c = .ok (h, r')) : r.Grows r' :=
  grows_of_obtain (q := .arrayOf c) hc

theorem grows_of_withDimensions {e h : Handle} {n : Nat}
    (hn : r.withDimensions e n = .ok (h, r')) : r.Grows r' := by
  induction n generalizing r e with
  | zero =>
    cases hn
    exact .refl _
  | succ n ih =>
    simp only [withDimensions] at hn
    split at hn
    next r₁ h₁ => exact (grows_of_arrayOf h₁).trans (ih hn)
    · cases hn

theorem grows_element (r : Registry) (e : Element) : r.Grows (r.element e).2 := by
  cases e with
  | primitive kind => exact .refl r
  | reference name => exact grows_reference r name

theorem grows_of_resolve {t : TypeLiteral} {h : Handle} (ht : r.resolve t = .ok (h, r')) :
    r.Grows r' :=
  (grows_element r t.element).trans (grows_of_withDimensions ht)

theorem grows_of_forName {text : String} {h : Handle} (ht : r.forName text = .ok (h, r')) :
    r.Grows r' := by
  simp only [forName] at ht
  split at ht
  · exact grows_of_resolve ht
  · cases ht

theorem grows_preload (r : Registry) : r.Grows r.preload := by
  suffices ∀ kinds : List Kind,
      r.Grows (kinds.foldl (fun r kind => r.after (r.primitiveArray kind)) r) from this Kind.all
  intro kinds
  induction kinds generalizing r with
  | nil => exact .refl r
  | cons kind kinds ih =>
    exact (grows_after_obtain r (.arrayOf (r.primitive kind))).trans (ih _)

theorem grows_fresh (id : Nat) (config : Config) : (bare id).Grows (fresh id config) := by
  unfold fresh
  split
  · exact grows_preload _
  · exact .refl _

end Registry

/-! ### Threads -/

theorem Thread.grows_step (r : Registry) (t : Thread) : r.Grows (t.step r).1 := by
  unfold Thread.step
  split
  · exact .refl r
  · split
    · exact .refl r
    · split
      · split
        next h => exact Registry.grows_of_obtain h
        · exact .refl r
      · split <;> exact .refl r

namespace Crew

theorem grows_step (c : Crew) (i : Nat) : c.registry.Grows (c.step i).registry := by
  unfold step
  split
  · exact .refl _
  next t _ => exact t.grows_step c.registry

theorem grows_run (c : Crew) (schedule : List Nat) :
    c.registry.Grows (c.run schedule).registry := by
  induction schedule generalizing c with
  | nil => exact .refl _
  | cons i schedule ih => exact (c.grows_step i).trans (ih _)

end Crew

/-! ### The calls of the interface -/

namespace Registry

variable {r r' : Registry}

theorem grows_resolveTogether (r : Registry) (threads : Nat) (texts : List String) :
    r.Grows (r.resolveTogether threads texts).2 :=
  Crew.grows_run (Crew.start r _) _

theorem grows_raceTogether (r : Registry) (threads rounds : Nat) (name : String) :
    r.Grows (r.raceTogether threads rounds name).2 :=
  Crew.grows_run (Crew.start r _) _

/-- A call that makes a handle answers with it. -/
theorem map_made_eq_ok_iff {x : Except Failure (Handle × Registry)} {a : Answer} :
    made <$> x = .ok (a, r') ↔ ∃ h, x = .ok (h, r') ∧ a = .handle h := by
  rw [map_eq_ok_iff]
  constructor
  · rintro ⟨⟨h, r₁⟩, hx, hm⟩
    cases hm
    exact ⟨h, hx, rfl⟩
  · rintro ⟨h, hx, rfl⟩
    exact ⟨(h, r'), hx, rfl⟩

theorem grows_of_perform {call : Call Handle Hierarchy} {a : Answer}
    (ha : r.perform call = .ok (a, r')) : r.Grows r' := by
  cases call with
  | primitive kind => cases ha; exact .refl r
  | reference name => cases ha; exact grows_reference r name
  | count => cases ha; exact .refl r
  | resolveTogether threads texts => cases ha; exact grows_resolveTogether r threads texts
  | raceTogether threads rounds name => cases ha; exact grows_raceTogether r threads rounds name
  | primitiveArray kind =>
    obtain ⟨h, hr, -⟩ := map_made_eq_ok_iff.1 ha
    exact grows_of_arrayOf hr
  | arrayOf c =>
    obtain ⟨h, hr, -⟩ := map_made_eq_ok_iff.1 ha
    exact grows_of_arrayOf hr
  | withDimensions e n =>
    obtain ⟨h, hr, -⟩ := map_made_eq_ok_iff.1 ha
    exact grows_of_withDimensions hr
  | resolve t =>
    obtain ⟨h, hr, -⟩ := map_made_eq_ok_iff.1 ha
    exact grows_of_resolve hr
  | forName text =>
    obtain ⟨h, hr, -⟩ := map_made_eq_ok_iff.1 ha
    exact grows_of_forName hr
  | inspect | isNamed | assignable | checkedCast | checkStore =>
    obtain ⟨x, -, hm⟩ := map_eq_ok_iff.1 ha
    cases hm
    exact .refl r

theorem grows_after_perform (r : Registry) (call : Call Handle Hierarchy) :
    r.Grows (r.after (r.perform call)) := by
  cases ha : r.perform call with
  | ok p => exact grows_of_perform ha
  | error e => exact .refl r

/-- What a registry can come to by calls. -/
inductive Reachable : Registry → Prop
  | fresh (id : Nat) (config : Config) : Reachable (fresh id config)
  | call {r : Registry} (hr : Reachable r) (call : Call Handle Hierarchy) :
    Reachable (r.after (r.perform call))

theorem Reachable.grows_bare (hr : r.Reachable) : ∃ id, (bare id).Grows r := by
  induction hr with
  | fresh id config => exact ⟨id, grows_fresh id config⟩
  | call hr call ih =>
    obtain ⟨id, hg⟩ := ih
    exact ⟨id, hg.trans (grows_after_perform _ call)⟩

end Registry

end ArrayTypes
