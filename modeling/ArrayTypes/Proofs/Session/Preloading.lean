import ArrayTypes.Proofs.Registry.TwinCalls
import ArrayTypes.Proofs.Session.Identity

/-! Sessions that differ in whether their first registry is preloaded. Taken in lockstep, the
same steps are replied to alike: handles have the same owners and stand for the same types, and
all else is the same but for the count of descriptors, which tells how many of the preloaded
arrays are still missing. -/

namespace ArrayTypes

/-- Two replies that are the same but for their handles, which are related, and for a number
that is greater by `excess` in the first. -/
inductive Reply.Alike (same : Handle → Handle → Prop) (excess : Nat) : Reply → Reply → Prop
  | answer {a b : Answer} (h : a.Alike same excess b) : Alike same excess (.answer a) (.answer b)
  | newRegistry (index : Nat) : Alike same excess (.newRegistry index) (.newRegistry index)
  | newHierarchy (index : Nat) : Alike same excess (.newHierarchy index) (.newHierarchy index)
  | failure {f f' : Failure} (h : f.Alike same f') : Alike same excess (.failure f) (.failure f')
  | undefined : Alike same excess .undefined .undefined

theorem Reply.Alike.imp {same same' : Handle → Handle → Prop} {excess : Nat} {a b : Reply}
    (h : a.Alike same excess b) (himp : ∀ g h, same g h → same' g h) :
    a.Alike same' excess b := by
  cases h with
  | answer h => exact .answer (h.imp himp)
  | failure h => exact .failure (h.imp himp)
  | _ => constructor

theorem Reply.Alike.handle?_alike {same : Handle → Handle → Prop} {excess : Nat} {a b : Reply}
    (h : a.Alike same excess b) : Option.Rel same a.handle? b.handle? := by
  cases h with
  | answer ha =>
    cases ha with
    | handle hs | component hs | array hs => exact .some hs
    | @scalar d hd =>
      simp only [handle?, Answer.handle?, hd]
      exact .none
    | _ => exact .none
  | _ => exact .none

/-- A call whose handles are looked up in two places. -/
theorem Call.alike_traverse {ι η θ : Type} {same : Handle → Handle → Prop}
    {f f' : ι → Option Handle} (hf : ∀ i, Option.Rel same (f i) (f' i)) (g : η → Option θ)
    (call : Call ι η) :
    Option.Rel (Call.Alike same) (call.traverse f g) (call.traverse f' g) := by
  have hg (H : η) : Option.Rel Eq (g H) (g H) := by
    cases g H with
    | none => exact .none
    | some θ => exact .some rfl
  cases call with
  | arrayOf c => exact optionRel_bind (hf c) fun _ _ hc => .some (.arrayOf hc)
  | withDimensions e n => exact optionRel_bind (hf e) fun _ _ he => .some (.withDimensions he n)
  | inspect query h => exact optionRel_bind (hf h) fun _ _ hh => .some (.inspect query hh)
  | isNamed h text => exact optionRel_bind (hf h) fun _ _ hh => .some (.isNamed hh text)
  | assignable a b H =>
    exact optionRel_bind (hf a) fun _ _ ha => optionRel_bind (hf b) fun _ _ hb =>
      optionRel_bind (hg H) fun _ _ hH => hH ▸ .some (.assignable ha hb _)
  | checkedCast a b H =>
    exact optionRel_bind (hf a) fun _ _ ha => optionRel_bind (hf b) fun _ _ hb =>
      optionRel_bind (hg H) fun _ _ hH => hH ▸ .some (.checkedCast ha hb _)
  | checkStore a b H =>
    exact optionRel_bind (hf a) fun _ _ ha => optionRel_bind (hf b) fun _ _ hb =>
      optionRel_bind (hg H) fun _ _ hH => hH ▸ .some (.checkStore ha hb _)
  | _ => exact .some (by constructor)

theorem Call.tellsCount_map {ι η θ : Type} (g : η → θ) (call : Call ι η) :
    (call.map g).tellsCount = call.tellsCount := by
  cases call <;> rfl

theorem Call.tellsCount_of_traverse {ι κ η θ : Type} {f : ι → Option κ} {g : η → Option θ}
    {call : Call ι η} {known : Call κ θ} (hc : call.traverse f g = some known) :
    known.tellsCount = call.tellsCount := by
  cases call <;>
    simp only [traverse, Option.bind_eq_bind, Option.bind_eq_some_iff, Option.pure_def,
      Option.some.injEq] at hc
  case arrayOf | withDimensions | inspect | isNamed =>
    obtain ⟨a, -, rfl⟩ := hc
    rfl
  case assignable | checkedCast | checkStore =>
    obtain ⟨a, -, b, -, H, -, rfl⟩ := hc
    rfl
  all_goals
    subst hc
    rfl

theorem Reply.Alike.report {same : Handle → Handle → Prop} {excess : Nat} {a b : Reply}
    (h : a.Alike same excess b) (hierarchy : Option SessionHierarchy) :
    (Session.report hierarchy a).Alike same excess (Session.report hierarchy b) := by
  cases h with
  | answer ha =>
    cases ha with
    | assignable => exact .answer (.assignable _ _)
    | _ => exact .answer (by constructor <;> assumption)
  | failure hf => exact .failure hf
  | _ => constructor

namespace Session

variable {s s' : Session} {i : Nat} {g g' h h' : Handle}

/-- The handles have the same owner, and stand for the same type there. -/
def Same (s s' : Session) (g h : Handle) : Prop :=
  g.owner = h.owner ∧ ∃ t, s.typeOf? g = some t ∧ s'.typeOf? h = some t

/-- What the registries of one session hold beyond those of the other: the first of them was
preloaded. -/
def surplus : Nat → Set TypeLiteral
  | 0 => Registry.primitiveArrays
  | _ + 1 => ∅

/-- The number of preloaded arrays that the registry could have and has not. -/
def missing (s : Session) : Nat → Nat
  | 0 => (s.registries[0]?.map Registry.missing).getD 0
  | _ + 1 => 0

/-- By how much the number in the reply to a step is greater with preloading. -/
def excess (s : Session) : Step → Nat
  | .call i call _ => if call.tellsCount then s.missing i else 0
  | _ => 0

/-- The sessions have the same hierarchies, twins for registries, and handles of the same types
in their variables. -/
structure Lockstep (s s' : Session) : Prop where
  sound_left : s.Sound
  sound_right : s'.Sound
  length_eq : s.registries.length = s'.registries.length
  length_pos : 0 < s.registries.length
  twin : ∀ {i : Nat} {r r' : Registry}, s.registries[i]? = some r → s'.registries[i]? = some r' →
    Registry.Twin (surplus i) r r'
  hierarchies_eq : s.hierarchies = s'.hierarchies
  bindings : List.Forall₂ (fun b b' => b.1 = b'.1 ∧ Same s s' b.2 b'.2) s.bindings s'.bindings

theorem Same.grows {t t' : Session} (hs : Same s s' g h) (hg : s.Grows t) (hg' : s'.Grows t') :
    Same t t' g h := by
  obtain ⟨ho, u, hgu, hhu⟩ := hs
  exact ⟨ho, u, typeOf?_of_grows hg hgu, typeOf?_of_grows hg' hhu⟩

theorem Same.holds_left (hs : Same s s' g h) : s.Holds g := by
  obtain ⟨-, t, hg, -⟩ := hs
  obtain ⟨r, hr, hd⟩ := typeOf?_eq_some_iff.1 hg
  obtain ⟨d, hd⟩ := hd.exists_get
  exact ⟨r, d, hr, hd⟩

theorem Same.holds_right (hs : Same s s' g h) : s'.Holds h := by
  obtain ⟨-, t, -, hh⟩ := hs
  obtain ⟨r, hr, hd⟩ := typeOf?_eq_some_iff.1 hh
  obtain ⟨d, hd⟩ := hd.exists_get
  exact ⟨r, d, hr, hd⟩

theorem hierarchies_keep (s : Session) (name : Option String) (reply : Reply) :
    (s.keep name reply).hierarchies = s.hierarchies := by
  unfold keep
  split
  · split <;> rfl
  · rfl

theorem missing_keep (s : Session) (name : Option String) (reply : Reply) (i : Nat) :
    (s.keep name reply).missing i = s.missing i := by
  cases i with
  | zero => rw [missing, missing, registries_keep]
  | succ i => rfl

theorem kept_alike {same : Handle → Handle → Prop} {excess : Nat} {a b : Answer}
    (h : a.Alike same excess b) : Option.Rel same (kept a) (kept b) := by
  cases h with
  | handle hs | component hs => exact .some hs
  | _ => exact .none

namespace Lockstep

theorem same_eq_iff (hl : Lockstep s s') (hs : Same s s' g h) (hs' : Same s s' g' h') :
    g = g' ↔ h = h' := by
  obtain ⟨ho, t, hg, hh⟩ := hs
  obtain ⟨ho', u, hg', hh'⟩ := hs'
  by_cases hown : g.owner = g'.owner
  · rw [eq_iff_of_typeOf? hl.sound_left hown hg hg',
      eq_iff_of_typeOf? hl.sound_right (by rw [← ho, ← ho', hown]) hh hh']
  · constructor
    · rintro rfl
      exact absurd rfl hown
    · rintro rfl
      exact absurd (ho.trans ho'.symm) hown

theorem same_of_corresponds (hl : Lockstep s s') {r r' : Registry}
    (hr : s.registries[i]? = some r) (hr' : s'.registries[i]? = some r')
    (hc : Registry.Corresponds r r' g h) : Same s s' g h := by
  obtain ⟨t, hg, hh⟩ := hc
  have hgo : g.owner = i := by
    obtain ⟨d, hd⟩ := hg.exists_get
    rw [Registry.owner_of_get_eq_ok hd, (hl.sound_left.registry hr).1]
  have hho : h.owner = i := by
    obtain ⟨d, hd⟩ := hh.exists_get
    rw [Registry.owner_of_get_eq_ok hd, (hl.sound_right.registry hr').1]
  exact ⟨hgo.trans hho.symm, t, typeOf?_eq_some_iff.2 ⟨r, hgo ▸ hr, hg⟩,
    typeOf?_eq_some_iff.2 ⟨r', hho ▸ hr', hh⟩⟩

theorem pairing (hl : Lockstep s s') {r r' : Registry} (hr : s.registries[i]? = some r)
    (hr' : s'.registries[i]? = some r') : Registry.Pairing r r' (Same s s') where
  owner_eq hs := hs.1
  eq_iff hs hs' := hl.same_eq_iff hs hs'
  corresponds {g h} hs ho := by
    obtain ⟨howner, t, hg, hh⟩ := hs
    rw [(hl.sound_left.registry hr).1] at ho
    obtain ⟨r₁, hr₁, hgt⟩ := typeOf?_eq_some_iff.1 hg
    obtain ⟨r₂, hr₂, hht⟩ := typeOf?_eq_some_iff.1 hh
    rw [ho] at hr₁
    rw [← howner, ho] at hr₂
    cases hr.symm.trans hr₁
    cases hr'.symm.trans hr₂
    exact ⟨t, hgt, hht⟩

theorem ncard_surplus_sdiff (hl : Lockstep s s') {r' : Registry}
    (hr' : s'.registries[i]? = some r') : (surplus i \ r'.types).ncard = s'.missing i := by
  cases i with
  | zero =>
    rw [missing, hr']
    exact Registry.ncard_primitiveArrays_sdiff (hl.sound_right.consistent hr')
  | succ i => rw [surplus, Set.empty_sdiff, Set.ncard_empty, missing]

theorem handleOf?_alike (hl : Lockstep s s') (name : String) :
    Option.Rel (Same s s') (s.handleOf? name) (s'.handleOf? name) :=
  optionRel_lookup hl.bindings name

/-! ### One step -/

/-- The registries may grow, to twins, and the variables stay. -/
theorem of_grows (hl : Lockstep s s') {t t' : Session} (ht : t.Sound) (ht' : t'.Sound)
    (hg : s.Grows t) (hg' : s'.Grows t') (hlength : t.registries.length = s.registries.length)
    (hlength' : t'.registries.length = s'.registries.length)
    (htwin : ∀ {j : Nat} {r r' : Registry}, t.registries[j]? = some r →
      t'.registries[j]? = some r' → Registry.Twin (surplus j) r r')
    (hh : t.hierarchies = t'.hierarchies) (hb : t.bindings = s.bindings)
    (hb' : t'.bindings = s'.bindings) : Lockstep t t' where
  sound_left := ht
  sound_right := ht'
  length_eq := by rw [hlength, hlength', hl.length_eq]
  length_pos := hlength ▸ hl.length_pos
  twin := htwin
  hierarchies_eq := hh
  bindings := by
    rw [hb, hb']
    exact hl.bindings.imp fun _ _ hb => ⟨hb.1, hb.2.grows hg hg'⟩

theorem perform (hl : Lockstep s s') (i : Nat) {call call' : Call Handle Hierarchy}
    (hc : call.Alike (Same s s') call') :
    Lockstep (s.perform i call).2 (s'.perform i call').2 ∧
      (s.perform i call).1.Alike (Same (s.perform i call).2 (s'.perform i call').2)
        (if call.tellsCount then (s'.perform i call').2.missing i else 0) (s'.perform i call').1 := by
  obtain ⟨hs, hg, -⟩ := sound_perform hl.sound_left i call
  obtain ⟨hs', hg', -⟩ := sound_perform hl.sound_right i call'
  cases hr : s.registries[i]? with
  | none =>
    have hr' : s'.registries[i]? = none := by
      rw [List.getElem?_eq_none_iff] at hr ⊢
      rwa [← hl.length_eq]
    simp only [Session.perform, hr, hr']
    exact ⟨hl, .undefined⟩
  | some r =>
    have hi : i < s.registries.length := (List.getElem?_eq_some_iff.1 hr).1
    have hi' : i < s'.registries.length := hl.length_eq ▸ hi
    have hr' : s'.registries[i]? = some s'.registries[i] := List.getElem?_eq_getElem hi'
    have hout := (hl.twin hr hr').outcomes_perform (hl.pairing hr hr') hc
    generalize hx : r.perform call = x at hout
    generalize hx' : s'.registries[i].perform call' = x' at hout
    cases hout with
    | failures hf =>
      rw [perform_of_eq_error hr hx, perform_of_eq_error hr' hx']
      exact ⟨hl, .failure hf⟩
    | @answers r₁ r₁' a b ht ha =>
      rw [perform_of_eq_ok hr hx] at hs hg ⊢
      rw [perform_of_eq_ok hr' hx'] at hs' hg' ⊢
      have hr₁ : (s.registries.set i r₁)[i]? = some r₁ := List.getElem?_set_self hi
      have hr₁' : (s'.registries.set i r₁')[i]? = some r₁' := List.getElem?_set_self hi'
      have hl₁ : Lockstep { s with registries := s.registries.set i r₁ }
          { s' with registries := s'.registries.set i r₁' } := by
        refine hl.of_grows hs hs' hg hg' List.length_set List.length_set ?_ hl.hierarchies_eq rfl rfl
        intro j r₂ r₂' hr₂ hr₂'
        by_cases hij : i = j
        · subst hij
          cases hr₁.symm.trans hr₂
          cases hr₁'.symm.trans hr₂'
          exact ht
        · rw [List.getElem?_set_ne hij] at hr₂ hr₂'
          exact hl.twin hr₂ hr₂'
      rw [hl₁.ncard_surplus_sdiff hr₁'] at ha
      refine ⟨hl₁, .answer (ha.imp fun g h hgh => ?_)⟩
      rcases hgh with hgh | hgh
      · exact hgh.grows hg hg'
      · exact hl₁.same_of_corresponds hr₁ hr₁' hgh

theorem bindings_keep (hl : Lockstep s s') {a b : Reply} {excess : Nat}
    (hr : a.Alike (Same s s') excess b) (name : Option String) :
    List.Forall₂ (fun b b' => b.1 = b'.1 ∧ Same s s' b.2 b'.2) (s.keep name a).bindings
      (s'.keep name b).bindings := by
  cases hr with
  | @answer a b ha =>
    cases name with
    | none => exact hl.bindings
    | some x =>
      have hk := kept_alike ha
      cases hka : kept a with
      | none =>
        rw [hka] at hk
        simp only [Session.keep, hka, eq_none_of_optionRel hk]
        exact hl.bindings
      | some g =>
        rw [hka] at hk
        obtain ⟨h, hkb, hs⟩ := exists_of_optionRel_some hk
        simp only [Session.keep, hka, hkb]
        exact .cons ⟨rfl, hs⟩ hl.bindings
  | _ => exact hl.bindings

theorem keep (hl : Lockstep s s') {a b : Reply} {excess : Nat}
    (hr : a.Alike (Same s s') excess b) (name : Option String) :
    Lockstep (s.keep name a) (s'.keep name b) := by
  have hhandles := hr.handle?_alike
  have hs : (s.keep name a).Sound := by
    refine sound_keep hl.sound_left name fun g hg => ?_
    rw [hg] at hhandles
    obtain ⟨h, -, hs⟩ := exists_of_optionRel_some hhandles
    exact hs.holds_left
  have hs' : (s'.keep name b).Sound := by
    refine sound_keep hl.sound_right name fun h hh => ?_
    rw [hh] at hhandles
    obtain ⟨g, -, hs⟩ := exists_of_optionRel_some_right hhandles
    exact hs.holds_right
  have hreg := registries_keep s name a
  have hreg' := registries_keep s' name b
  refine ⟨hs, hs', ?_, ?_, ?_, ?_, ?_⟩
  · rw [hreg, hreg', hl.length_eq]
  · rw [hreg]
    exact hl.length_pos
  · intro j r r' hr hr'
    rw [hreg] at hr
    rw [hreg'] at hr'
    exact hl.twin hr hr'
  · rw [hierarchies_keep, hierarchies_keep, hl.hierarchies_eq]
  · exact (hl.bindings_keep hr name).imp fun _ _ hb =>
      ⟨hb.1, hb.2.grows (grows_keep s name a) (grows_keep s' name b)⟩

/-- A step that leaves registries and variables alone. -/
theorem of_registries_eq (hl : Lockstep s s') {t t' : Session} (hr : t.registries = s.registries)
    (hr' : t'.registries = s'.registries) (hb : t.bindings = s.bindings)
    (hb' : t'.bindings = s'.bindings) (hh : t.hierarchies = t'.hierarchies) : Lockstep t t' := by
  refine hl.of_grows (hl.sound_left.of_registries_eq hr hb) (hl.sound_right.of_registries_eq hr' hb')
    (.of_registries_eq hr) (.of_registries_eq hr') (by rw [hr]) (by rw [hr']) ?_ hh hb hb'
  rw [hr, hr']
  exact hl.twin

theorem newRegistry (hl : Lockstep s s') (config : Config) :
    Lockstep (s.step (.newRegistry config)).2 (s'.step (.newRegistry config)).2 := by
  obtain ⟨hs, hg⟩ := sound_newRegistry hl.sound_left config
  obtain ⟨hs', hg'⟩ := sound_newRegistry hl.sound_right config
  refine ⟨hs, hs', ?_, ?_, ?_, hl.hierarchies_eq, ?_⟩
  · simp [Session.step, hl.length_eq]
  · simp [Session.step]
  · intro j r r' hr hr'
    simp only [Session.step, List.getElem?_append, ← hl.length_eq] at hr hr'
    split at hr
    next hj =>
      rw [if_pos hj] at hr'
      exact hl.twin hr hr'
    next hj =>
      rw [if_neg hj] at hr'
      cases hr.symm.trans hr'
      -- a later registry is made in both sessions alike
      have hlater : surplus j = ∅ := by
        cases j with
        | zero => exact absurd hl.length_pos hj
        | succ j => rfl
      rw [hlater]
      exact Registry.twin_self (hs.consistent (i := j) (by
        simp only [Session.step, List.getElem?_append, if_neg hj, hr]))
  · exact hl.bindings.imp fun _ _ hb => ⟨hb.1, hb.2.grows hg hg'⟩

theorem call (hl : Lockstep s s') (i : Nat) (call : Call String Nat) (name : Option String) :
    Lockstep (s.step (.call i call name)).2 (s'.step (.call i call name)).2 ∧
      (s.step (.call i call name)).1.Alike
        (Same (s.step (.call i call name)).2 (s'.step (.call i call name)).2)
        (if call.tellsCount then (s'.step (.call i call name)).2.missing i else 0)
        (s'.step (.call i call name)).1 := by
  have hc := Call.alike_traverse hl.handleOf?_alike (s.hierarchies[·]?) call
  unfold Session.step
  simp only [← hl.hierarchies_eq]
  cases hk : call.traverse s.handleOf? (s.hierarchies[·]?) with
  | none =>
    rw [hk] at hc
    rw [eq_none_of_optionRel hc]
    exact ⟨hl, .undefined⟩
  | some known =>
    rw [hk] at hc
    obtain ⟨known', hk', hknown⟩ := exists_of_optionRel_some hc
    obtain ⟨hl₁, hr⟩ := hl.perform i (hknown.map SessionHierarchy.hierarchy)
    simp only [hk']
    refine ⟨hl₁.keep hr name, ?_⟩
    rw [missing_keep, ← Call.tellsCount_of_traverse hk, ← hknown.hierarchy?_eq]
    rw [Call.tellsCount_map] at hr
    exact (hr.report _).imp fun _ _ hs => hs.grows (grows_keep _ _ _) (grows_keep _ _ _)

theorem step (hl : Lockstep s s') (step : Step) :
    Lockstep (s.step step).2 (s'.step step).2 ∧
      (s.step step).1.Alike (Same (s.step step).2 (s'.step step).2)
        ((s'.step step).2.excess step) (s'.step step).1 := by
  cases step with
  | newRegistry config =>
    refine ⟨hl.newRegistry config, ?_⟩
    simp only [Session.step, hl.length_eq]
    exact .newRegistry _
  | newHierarchy H =>
    simp only [Session.step, ← hl.hierarchies_eq]
    exact ⟨hl.of_registries_eq rfl rfl rfl rfl rfl, .newHierarchy _⟩
  | copyHierarchy i =>
    simp only [Session.step, ← hl.hierarchies_eq]
    cases s.hierarchies[i]? with
    | none => exact ⟨hl, .undefined⟩
    | some H => exact ⟨hl.of_registries_eq rfl rfl rfl rfl rfl, .newHierarchy _⟩
  | declare i name supertypes =>
    simp only [Session.step, ← hl.hierarchies_eq]
    split
    · exact ⟨hl.of_registries_eq rfl rfl rfl rfl rfl, .answer .nothing⟩
    · exact ⟨hl, .undefined⟩
  | supertypes i name =>
    simp only [Session.step, ← hl.hierarchies_eq]
    split
    · exact ⟨hl, .answer (.texts _)⟩
    · exact ⟨hl, .undefined⟩
  | ask i question =>
    simp only [Session.step, ← hl.hierarchies_eq]
    cases s.hierarchies[i]? with
    | none => exact ⟨hl, .undefined⟩
    | some H => exact ⟨hl, .answer (.flag _)⟩
  | sameHandle a b =>
    have ha := hl.handleOf?_alike a
    have hb := hl.handleOf?_alike b
    simp only [Session.step]
    generalize s.handleOf? a = x at ha
    generalize s'.handleOf? a = x' at ha
    generalize s.handleOf? b = y at hb
    generalize s'.handleOf? b = y' at hb
    cases ha with
    | none => exact ⟨hl, .undefined⟩
    | some hx =>
      cases hb with
      | none => exact ⟨hl, .undefined⟩
      | some hy =>
        simp only [hl.same_eq_iff hx hy]
        exact ⟨hl, .answer (.flag _)⟩
  | call i call name => exact hl.call i call name

/-! ### A whole run -/

theorem run (hl : Lockstep s s') (steps : List Step) : Lockstep (s.run steps) (s'.run steps) := by
  induction steps generalizing s s' with
  | nil => exact hl
  | cons step steps ih => exact ih (hl.step step).1

theorem returned (hl : Lockstep s s') (steps : List Step) :
    List.Forall₂ (Same (s.run steps) (s'.run steps)) (s.returned steps) (s'.returned steps) := by
  induction steps generalizing s s' with
  | nil => exact .nil
  | cons step steps ih =>
    obtain ⟨hl₁, hr⟩ := hl.step step
    have hg := grows_run hl₁.sound_left steps
    have hg' := grows_run hl₁.sound_right steps
    rw [returned_cons, returned_cons]
    refine List.rel_append ?_ (ih hl₁)
    have hh := hr.handle?_alike
    cases hleft : (s.step step).1.handle? with
    | none =>
      rw [hleft] at hh
      rw [eq_none_of_optionRel hh]
      exact .nil
    | some g =>
      rw [hleft] at hh
      obtain ⟨h, hright, hs⟩ := exists_of_optionRel_some hh
      rw [hright]
      exact .cons (hs.grows hg hg') .nil

theorem biUnique (hl : Lockstep s s') : Relator.BiUnique (Same s s') :=
  ⟨fun _ _ _ h h' => (hl.same_eq_iff h h').2 rfl, fun _ _ _ h h' => (hl.same_eq_iff h h').1 rfl⟩

theorem count_eq (hl : Lockstep s s') {r r' : Registry} (hr : s.registries[i]? = some r)
    (hr' : s'.registries[i]? = some r') : r.count = r'.count + s'.missing i := by
  rw [(hl.twin hr hr').count_eq, hl.ncard_surplus_sdiff hr']

theorem counts (hl : Lockstep s s') :
    ∃ count others, s'.counts = count :: others ∧ s.counts = (count + s'.missing 0) :: others := by
  have hpos' : 0 < s'.registries.length := hl.length_eq ▸ hl.length_pos
  obtain ⟨r, rs, hr⟩ := List.exists_cons_of_length_pos hl.length_pos
  obtain ⟨r', rs', hr'⟩ := List.exists_cons_of_length_pos hpos'
  have hlength : rs.length = rs'.length := by
    have := hl.length_eq
    rw [hr, hr'] at this
    exact Nat.succ.inj this
  refine ⟨r'.count, rs'.map Registry.count, by rw [Session.counts, hr', List.map_cons], ?_⟩
  rw [Session.counts, hr, List.map_cons, hl.count_eq (i := 0) (by rw [hr]; rfl) (by rw [hr']; rfl)]
  congr 1
  refine List.ext_getElem (by simp [hlength]) fun i hi hi' => ?_
  rw [List.length_map] at hi hi'
  rw [List.getElem_map, List.getElem_map]
  exact hl.count_eq (i := i + 1) (by rw [hr]; exact List.getElem?_eq_getElem hi)
    (by rw [hr']; exact List.getElem?_eq_getElem hi')

end Lockstep

theorem lockstep_start (m n : Nat) (hierarchies : List SessionHierarchy) :
    Lockstep (start [{ preload := true, capacity := m }] hierarchies)
      (start [{ preload := false, capacity := n }] hierarchies) where
  sound_left := sound_start _ hierarchies
  sound_right := sound_start _ hierarchies
  length_eq := rfl
  length_pos := Nat.one_pos
  twin {i r r'} hr hr' := by
    cases i with
    | zero =>
      cases hr
      cases hr'
      exact Registry.twin_fresh 0 m n
    | succ i => cases hr
  hierarchies_eq := rfl
  bindings := .nil

/-- The same steps, taken from a preloaded registry and from one that is not. Every reply is the
same in both but for handles, which have the same owners and stand for the same types, and for
counts of the first registry. Handles are equal to one another in the one run just if they are in
the other. The preloaded registry holds as many descriptors more as there are primitive kinds
whose array class the other has not created, and no other registry is concerned. -/
theorem preloading_is_transparent (m n : Nat) (hierarchies : List SessionHierarchy)
    (steps : List Step) :
    let eager₀ := start [{ preload := true, capacity := m }] hierarchies
    let lazy₀ := start [{ preload := false, capacity := n }] hierarchies
    let eager := eager₀.run steps
    let lazy := lazy₀.run steps
    (∀ step, (eager.step step).1.Alike (Same (eager.step step).2 (lazy.step step).2)
      ((lazy.step step).2.excess step) (lazy.step step).1) ∧
    List.Forall₂ (Same eager lazy) (eager₀.returned steps) (lazy₀.returned steps) ∧
    (∀ i j : Nat, (eager₀.returned steps)[i]? = (eager₀.returned steps)[j]? ↔
      (lazy₀.returned steps)[i]? = (lazy₀.returned steps)[j]?) ∧
    ∃ count others, lazy.counts = count :: others ∧
      eager.counts = (count + lazy.missing 0) :: others := by
  intro eager₀ lazy₀ eager lazy
  have hl₀ : Lockstep eager₀ lazy₀ := lockstep_start m n hierarchies
  have hl : Lockstep eager lazy := hl₀.run steps
  have hreturned := hl₀.returned steps
  refine ⟨fun step => (hl.step step).2, hreturned, fun i j => ?_, hl.counts⟩
  exact Relator.rel_eq (biUnique_optionRel hl.biUnique)
    (optionRel_getElem? hreturned i) (optionRel_getElem? hreturned j)

/-- The same array class has the slot that it was given when preloaded, or the next free one. -/
example :
    let steps := [.call 0 (.primitiveArray .int) none]
    (start [{ preload := true }] []).returned steps = [⟨0, 12⟩] ∧
      (start [{ preload := false }] []).returned steps = [⟨0, 8⟩] := by
  decide

end Session

end ArrayTypes
