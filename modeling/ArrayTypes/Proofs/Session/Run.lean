import ArrayTypes.Session
import ArrayTypes.Proofs.Registry.Denotation

/-! Runs of sessions. Every registry of a session is one that calls lead to, and only
grows; every handle that a session hands out or keeps is that of a descriptor, in the
registry that the handle names. -/

namespace ArrayTypes

/-- The handle that an answer holds; that of a descriptor is its component. -/
def Answer.handle? : Answer → Option Handle
  | handle h => some h
  | component h => h
  | descriptor d => d.component?
  | _ => none

theorem Answer.handle?_of_kept {a : Answer} {h : Handle} (hk : Session.kept a = some h) :
    a.handle? = some h := by
  cases a <;> cases hk <;> rfl

namespace Registry

variable {r r' : Registry}

/-! ### The handles that a registry returns -/

theorem exists_get_of_lookup? (hr : r.Consistent) {q : Request Handle} {h : Handle}
    (hl : r.lookup? q = some h) : ∃ d, r.get h = .ok d := by
  obtain ⟨d, hd, -⟩ := hr.lookup?_iff.1 hl
  exact ⟨d, hd⟩

theorem exists_get_of_arrayOf (hr : r.Consistent) {c h : Handle}
    (ha : r.arrayOf c = .ok (h, r')) : ∃ d, r'.get h = .ok d :=
  exists_get_of_lookup? (hr.of_grows (grows_of_arrayOf ha))
    (lookup?_of_obtain (q := .arrayOf c) ha)

/-- No level at all gives the handle back as it is, be it the registry's or not. -/
theorem eq_or_exists_get_of_withDimensions (hr : r.Consistent) {e h : Handle} {n : Nat}
    (hn : r.withDimensions e n = .ok (h, r')) : h = e ∨ ∃ d, r'.get h = .ok d := by
  induction n generalizing r e with
  | zero =>
    cases hn
    exact .inl rfl
  | succ n ih =>
    simp only [withDimensions] at hn
    split at hn
    next h₁ r₁ ha =>
      rcases ih (hr.of_grows (grows_of_arrayOf ha)) hn with rfl | hd
      · obtain ⟨d, hd⟩ := exists_get_of_arrayOf hr ha
        exact .inr ⟨d, (grows_of_withDimensions hn).get_of_get hd⟩
      · exact .inr hd
    · cases hn

theorem exists_get_of_resolve (hr : r.Consistent) {t : TypeLiteral} {h : Handle}
    (ht : r.resolve t = .ok (h, r')) : ∃ d, r'.get h = .ok d := by
  obtain ⟨h₁, r₁, h₁t, hd⟩ := exists_resolve hr t
  cases ht.symm.trans h₁t
  exact hd.exists_get

theorem exists_get_of_forName (hr : r.Consistent) {text : String} {h : Handle}
    (ht : r.forName text = .ok (h, r')) : ∃ d, r'.get h = .ok d := by
  simp only [forName] at ht
  split at ht
  · exact exists_get_of_resolve hr ht
  · cases ht

theorem exists_get_of_component (hr : r.Consistent) {h c : Handle}
    (hc : r.componentType h = .ok (some c)) : ∃ d, r.get c = .ok d := by
  obtain ⟨d, hd, hm⟩ := bind_eq_ok_iff.1 hc
  obtain ⟨e, he, -⟩ := hr.eq_arrayOf hd (Except.ok.inj hm)
  exact ⟨e, he⟩

theorem exists_get_of_elementType {h b : Handle} (hb : r.elementType h = .ok b) :
    ∃ d, r.get b = .ok d := by
  obtain ⟨⟨b', n⟩, hu, hm⟩ := bind_eq_ok_iff.1 hb
  cases hm
  obtain ⟨d, hd, -⟩ := get_bottom_of_unwrap hu
  exact ⟨d, hd⟩

theorem eq_of_checkedCast {H : Hierarchy} {source target h : Handle}
    (hc : r.checkedCast H source target = .ok h) : h = target := by
  obtain ⟨b, -, hm⟩ := bind_eq_ok_iff.1 hc
  cases b with
  | true => cases hm; rfl
  | false =>
    obtain ⟨_, -, hm⟩ := bind_eq_ok_iff.1 hm
    obtain ⟨_, -, hm⟩ := bind_eq_ok_iff.1 hm
    cases hm

/-- The handle in an answer is one that the call was given, or that of a descriptor. -/
theorem mem_handles_or_exists_get_of_perform (hr : r.Consistent) {call : Call Handle Hierarchy}
    {a : Answer} (ha : r.perform call = .ok (a, r')) {h : Handle} (hk : a.handle? = some h) :
    h ∈ call.handles ∨ ∃ d, r'.get h = .ok d := by
  cases call with
  | primitive kind =>
    cases ha; cases hk
    exact .inr ⟨_, hr.get_primitive kind⟩
  | reference name =>
    cases ha; cases hk
    exact .inr (denotes_reference hr name).exists_get
  | primitiveArray kind =>
    obtain ⟨h', hm, rfl⟩ := map_made_eq_ok_iff.1 ha
    cases hk
    exact .inr (exists_get_of_arrayOf hr hm)
  | arrayOf c =>
    obtain ⟨h', hm, rfl⟩ := map_made_eq_ok_iff.1 ha
    cases hk
    exact .inr (exists_get_of_arrayOf hr hm)
  | withDimensions e n =>
    obtain ⟨h', hm, rfl⟩ := map_made_eq_ok_iff.1 ha
    cases hk
    rcases eq_or_exists_get_of_withDimensions hr hm with rfl | hd
    · exact .inl (List.mem_singleton.2 rfl)
    · exact .inr hd
  | resolve t =>
    obtain ⟨h', hm, rfl⟩ := map_made_eq_ok_iff.1 ha
    cases hk
    exact .inr (exists_get_of_resolve hr hm)
  | forName text =>
    obtain ⟨h', hm, rfl⟩ := map_made_eq_ok_iff.1 ha
    cases hk
    exact .inr (exists_get_of_forName hr hm)
  | inspect query g =>
    obtain ⟨b, hb, hm⟩ := map_eq_ok_iff.1 ha
    cases hm
    cases query with
    | descriptor =>
      obtain ⟨d, hd, rfl⟩ := map_eq_ok_iff.1 hb
      obtain ⟨e, he, -⟩ := hr.eq_arrayOf hd hk
      exact .inr ⟨e, he⟩
    | component =>
      obtain ⟨c, hc, rfl⟩ := map_eq_ok_iff.1 hb
      cases hk
      exact .inr (exists_get_of_component hr hc)
    | element =>
      obtain ⟨c, hc, rfl⟩ := map_eq_ok_iff.1 hb
      cases hk
      exact .inr (exists_get_of_elementType hc)
    | _ =>
      obtain ⟨c, -, rfl⟩ := map_eq_ok_iff.1 hb
      cases hk
  | checkedCast source target H =>
    obtain ⟨c, hc, hm⟩ := map_eq_ok_iff.1 ha
    cases hm; cases hk
    cases eq_of_checkedCast hc
    exact .inl (by simp [Call.handles])
  | isNamed | assignable | checkStore =>
    obtain ⟨c, -, hm⟩ := map_eq_ok_iff.1 ha
    cases hm; cases hk
  | count | resolveTogether | raceTogether =>
    cases ha; cases hk

end Registry

/-! ### Looking up a call's handles -/

namespace Call

variable {ι η κ θ : Type}

theorem handles_map (g : η → θ) (c : Call ι η) : (c.map g).handles = c.handles := by
  cases c <;> rfl

/-- Every handle of a call that was looked up was found. -/
theorem exists_of_mem_handles_traverse {f : ι → Option κ} {g : η → Option θ} {c : Call ι η}
    {known : Call κ θ} (hc : c.traverse f g = some known) {h : κ} (hh : h ∈ known.handles) :
    ∃ i, f i = some h := by
  cases c <;>
    simp only [traverse, Option.bind_eq_bind, Option.bind_eq_some_iff, Option.pure_def,
      Option.some.injEq] at hc
  case arrayOf | withDimensions | inspect | isNamed =>
    obtain ⟨a, ha, rfl⟩ := hc
    cases List.mem_singleton.1 hh
    exact ⟨_, ha⟩
  case assignable | checkedCast | checkStore =>
    obtain ⟨a, ha, b, hb, θ, -, rfl⟩ := hc
    rcases List.mem_pair.1 hh with rfl | rfl
    · exact ⟨_, ha⟩
    · exact ⟨_, hb⟩
  all_goals
    subst hc
    cases hh

end Call

/-- The handle that a reply hands out. -/
def Reply.handle? : Reply → Option Handle
  | .answer a => a.handle?
  | _ => none

namespace Session

/-- The session after the steps. -/
def run (s : Session) (steps : List Step) : Session :=
  steps.foldl (fun s step => (s.step step).2) s

/-- The handles that the steps hand out, in order. -/
def returned (s : Session) (steps : List Step) : List Handle :=
  (s.transcript steps).filterMap fun entry => entry.1.handle?

/-- The handle is that of a descriptor in its own registry. -/
def Holds (s : Session) (h : Handle) : Prop :=
  ∃ r d, s.registries[h.owner]? = some r ∧ r.get h = .ok d

/-- Every registry is one that calls lead to, with its place as its number, and every
variable holds the handle of a descriptor. -/
structure Sound (s : Session) : Prop where
  registry : ∀ {i : Nat} {r : Registry}, s.registries[i]? = some r → r.id = i ∧ r.Reachable
  binding : ∀ {name : String} {h : Handle}, (name, h) ∈ s.bindings → s.Holds h

/-- All registries of `s` are there in `s'`, and only more descriptors. -/
def Grows (s s' : Session) : Prop :=
  ∀ (i : Nat) (r : Registry), s.registries[i]? = some r →
    ∃ r', s'.registries[i]? = some r' ∧ r.Grows r'

variable {s s' : Session}

namespace Grows

theorem refl (s : Session) : s.Grows s :=
  fun _ r hr => ⟨r, hr, .refl r⟩

theorem trans {s₁ s₂ s₃ : Session} (h : s₁.Grows s₂) (h' : s₂.Grows s₃) : s₁.Grows s₃ := by
  intro i r hr
  obtain ⟨r₂, hr₂, hg⟩ := h i r hr
  obtain ⟨r₃, hr₃, hg'⟩ := h' i r₂ hr₂
  exact ⟨r₃, hr₃, hg.trans hg'⟩

theorem of_registries_eq (h : s'.registries = s.registries) : s.Grows s' :=
  fun _ r hr => ⟨r, h ▸ hr, .refl r⟩

theorem holds (hg : s.Grows s') {h : Handle} (hh : s.Holds h) : s'.Holds h := by
  obtain ⟨r, d, hr, hd⟩ := hh
  obtain ⟨r', hr', hrg⟩ := hg _ _ hr
  exact ⟨r', d, hr', hrg.get_of_get hd⟩

end Grows

theorem sound_start (configs : List Config) (hierarchies : List SessionHierarchy) :
    (start configs hierarchies).Sound where
  registry hr := by
    obtain ⟨config, hc, rfl⟩ := by
      simpa only [start, List.getElem?_mapIdx, Option.map_eq_some_iff] using hr
    exact ⟨(Registry.grows_fresh _ config).id_eq, .fresh _ config⟩
  binding hb := by cases hb

theorem Sound.consistent (hs : s.Sound) {i : Nat} {r : Registry} (hr : s.registries[i]? = some r) :
    r.Consistent :=
  (hs.registry hr).2.consistent

/-! ### One step -/

/-- A step whose reply hands out no handle and which leaves the registries be. -/
theorem Sound.of_registries_eq (hs : s.Sound) (hr : s'.registries = s.registries)
    (hb : s'.bindings = s.bindings) : s'.Sound where
  registry h := hs.registry (hr ▸ h)
  binding h := (Grows.of_registries_eq hr).holds (hs.binding (hb ▸ h))

theorem sound_newRegistry (hs : s.Sound) (config : Config) :
    (s.step (.newRegistry config)).2.Sound ∧ s.Grows (s.step (.newRegistry config)).2 := by
  have hg : s.Grows (s.step (.newRegistry config)).2 := by
    intro i r hr
    have hi : i < s.registries.length := (List.getElem?_eq_some_iff.1 hr).1
    exact ⟨r, by rw [step, List.getElem?_append_left hi, hr], .refl r⟩
  refine ⟨⟨?_, fun hb => hg.holds (hs.binding hb)⟩, hg⟩
  intro i r hr
  rw [step, List.getElem?_append] at hr
  split at hr
  · exact hs.registry hr
  next hi =>
    have h0 : i - s.registries.length = 0 := by
      have := (List.getElem?_eq_some_iff.1 hr).1
      simp only [List.length_singleton] at this
      omega
    rw [h0] at hr
    cases hr
    have hl : s.registries.length = i := by omega
    exact ⟨(Registry.grows_fresh _ config).id_eq.trans hl, .fresh _ config⟩

/-- One registry grows and the others are as they were. -/
theorem grows_set {i : Nat} {r r' : Registry} (hr : s.registries[i]? = some r)
    (hg : r.Grows r') : s.Grows { s with registries := s.registries.set i r' } := by
  intro j r₁ hj
  have hi : i < s.registries.length := (List.getElem?_eq_some_iff.1 hr).1
  by_cases hij : i = j
  · subst hij
    cases hr.symm.trans hj
    exact ⟨r', List.getElem?_set_self hi, hg⟩
  · exact ⟨r₁, by rw [List.getElem?_set_ne hij, hj], .refl r₁⟩

theorem Sound.set (hs : s.Sound) {i : Nat} {r r' : Registry} (hr : s.registries[i]? = some r)
    (hg : r.Grows r') (hreach : r'.Reachable) :
    Sound { s with registries := s.registries.set i r' } := by
  refine ⟨?_, fun hb => (grows_set hr hg).holds (hs.binding hb)⟩
  intro j r₁ hj
  have hi : i < s.registries.length := (List.getElem?_eq_some_iff.1 hr).1
  by_cases hij : i = j
  · subst hij
    rw [List.getElem?_set_self hi] at hj
    cases hj
    exact ⟨hg.id_eq.trans (hs.registry hr).1, hreach⟩
  · rw [List.getElem?_set_ne hij] at hj
    exact hs.registry hj

section Performed

variable {i : Nat} {r r' : Registry} {call : Call Handle Hierarchy}

theorem perform_of_eq_error (hr : s.registries[i]? = some r) {f : Failure}
    (hf : r.perform call = .error f) : s.perform i call = (.failure f, s) := by
  simp only [perform, hr, hf]

theorem perform_of_eq_ok (hr : s.registries[i]? = some r) {a : Answer}
    (ha : r.perform call = .ok (a, r')) :
    s.perform i call = (.answer a, { s with registries := s.registries.set i r' }) := by
  simp only [perform, hr, ha]

end Performed

/-- A call changes its own registry alone, and only by growth. -/
theorem sound_perform (hs : s.Sound) (i : Nat) (call : Call Handle Hierarchy) :
    (s.perform i call).2.Sound ∧ s.Grows (s.perform i call).2 ∧
      (s.perform i call).2.bindings = s.bindings := by
  unfold perform
  split
  · exact ⟨hs, .refl s, rfl⟩
  next r hr =>
    split
    next a r' ha =>
      have hg : r.Grows r' := Registry.grows_of_perform ha
      have hreach : r'.Reachable := by
        have := (hs.registry hr).2.call call
        rwa [ha] at this
      exact ⟨hs.set hr hg hreach, grows_set hr hg, rfl⟩
    · exact ⟨hs, .refl s, rfl⟩

/-- The handle that a call returns is one that it was given, or that of a descriptor. -/
theorem holds_of_perform (hs : s.Sound) {i : Nat} {call : Call Handle Hierarchy}
    (hc : ∀ h ∈ call.handles, s.Holds h) {h : Handle}
    (hh : (s.perform i call).1.handle? = some h) : (s.perform i call).2.Holds h := by
  have hg := (sound_perform hs i call).2.1
  cases hr : s.registries[i]? with
  | none =>
    simp only [perform, hr] at hh
    cases hh
  | some r =>
    cases ha : r.perform call with
    | error f =>
      simp only [perform, hr, ha] at hh
      cases hh
    | ok p =>
      obtain ⟨a, r'⟩ := p
      have hk : a.handle? = some h := by simpa only [perform, hr, ha, Reply.handle?] using hh
      rcases Registry.mem_handles_or_exists_get_of_perform (hs.consistent hr) ha hk with hm | hd
      · exact hg.holds (hc h hm)
      · obtain ⟨d, hd⟩ := hd
        have hi : i < s.registries.length := (List.getElem?_eq_some_iff.1 hr).1
        have ho : h.owner = i := by
          rw [(Registry.get_eq_ok_iff.1 hd).1, (Registry.grows_of_perform ha).id_eq]
          exact (hs.registry hr).1
        refine ⟨r', d, ?_, hd⟩
        simp only [perform, hr, ha, ho]
        exact List.getElem?_set_self hi

theorem handle?_report (H : Option SessionHierarchy) (reply : Reply) :
    (report H reply).handle? = reply.handle? := by
  unfold report
  split <;> rfl

theorem registries_keep (s : Session) (name : Option String) (reply : Reply) :
    (s.keep name reply).registries = s.registries := by
  unfold keep
  split
  · split <;> rfl
  · rfl

theorem grows_keep (s : Session) (name : Option String) (reply : Reply) :
    s.Grows (s.keep name reply) :=
  .of_registries_eq (registries_keep s name reply)

theorem sound_keep (hs : s.Sound) (name : Option String) {reply : Reply}
    (hr : ∀ h, reply.handle? = some h → s.Holds h) : (s.keep name reply).Sound := by
  refine ⟨fun h => hs.registry (registries_keep s name reply ▸ h), ?_⟩
  intro x h hb
  apply (grows_keep s name reply).holds
  unfold keep at hb
  split at hb
  next a =>
    split at hb
    next x' h' hk =>
      rcases List.mem_cons.1 hb with hx | hb
      · cases hx
        exact hr h (Answer.handle?_of_kept hk)
      · exact hs.binding hb
    · exact hs.binding hb
  · exact hs.binding hb

theorem Sound.holds_of_handleOf? (hs : s.Sound) {name : String} {h : Handle}
    (hh : s.handleOf? name = some h) : s.Holds h := by
  obtain ⟨l, m, hb, -⟩ := List.lookup_eq_some_iff.1 hh
  have hm : (name, h) ∈ s.bindings := by
    rw [hb]
    simp
  exact hs.binding hm

/-- Whatever a step does, the session stays sound and grows, and the handle it hands out is
that of a descriptor. -/
theorem sound_step (hs : s.Sound) (step : Step) :
    (s.step step).2.Sound ∧ s.Grows (s.step step).2 ∧
      ∀ h, (s.step step).1.handle? = some h → (s.step step).2.Holds h := by
  have still {reply : Reply} {s' : Session} (hr : s'.registries = s.registries)
      (hb : s'.bindings = s.bindings) (hh : reply.handle? = none) :
      s'.Sound ∧ s.Grows s' ∧ ∀ h, reply.handle? = some h → s'.Holds h := by
    refine ⟨hs.of_registries_eq hr hb, .of_registries_eq hr, ?_⟩
    simp [hh]
  cases step with
  | newRegistry config =>
    obtain ⟨hs', hg⟩ := sound_newRegistry hs config
    exact ⟨hs', hg, by rintro h ⟨⟩⟩
  | newHierarchy H => exact still rfl rfl rfl
  | copyHierarchy i | declare i name supertypes | supertypes i name | ask i question =>
    unfold Session.step
    dsimp only
    split <;> exact still rfl rfl rfl
  | sameHandle a b =>
    unfold Session.step
    dsimp only
    split <;> exact still rfl rfl rfl
  | call i call name =>
    unfold Session.step
    dsimp only
    split
    · exact still rfl rfl rfl
    next known hk =>
      have hc : ∀ h ∈ (known.map SessionHierarchy.hierarchy).handles, s.Holds h := by
        intro h hh
        rw [Call.handles_map] at hh
        obtain ⟨x, hx⟩ := Call.exists_of_mem_handles_traverse hk hh
        exact hs.holds_of_handleOf? hx
      obtain ⟨hs', hg, -⟩ := sound_perform hs i (known.map SessionHierarchy.hierarchy)
      have hh := fun h => holds_of_perform hs (i := i) hc (h := h)
      generalize s.perform i (known.map SessionHierarchy.hierarchy) = p at hs' hg hh ⊢
      obtain ⟨reply, s'⟩ := p
      refine ⟨sound_keep hs' name hh, hg.trans (grows_keep s' name reply), ?_⟩
      intro h hr
      rw [handle?_report] at hr
      exact (grows_keep s' name reply).holds (hh h hr)

/-! ### A whole run -/

theorem returned_cons (s : Session) (step : Step) (steps : List Step) :
    s.returned (step :: steps) =
      (s.step step).1.handle?.toList ++ (s.step step).2.returned steps := by
  simp only [returned, transcript, List.filterMap_cons]
  cases (s.step step).1.handle? <;> rfl

theorem sound_run (hs : s.Sound) (steps : List Step) : (s.run steps).Sound := by
  induction steps generalizing s with
  | nil => exact hs
  | cons step steps ih => exact ih (sound_step hs step).1

theorem grows_run (hs : s.Sound) (steps : List Step) : s.Grows (s.run steps) := by
  induction steps generalizing s with
  | nil => exact .refl s
  | cons step steps ih =>
    obtain ⟨hs', hg, -⟩ := sound_step hs step
    exact hg.trans (ih hs')

theorem holds_of_mem_returned (hs : s.Sound) {steps : List Step} {h : Handle}
    (hh : h ∈ s.returned steps) : (s.run steps).Holds h := by
  induction steps generalizing s with
  | nil => cases hh
  | cons step steps ih =>
    obtain ⟨hs', -, hk⟩ := sound_step hs step
    rw [returned_cons, List.mem_append, Option.mem_toList] at hh
    rcases hh with hh | hh
    · exact (grows_run hs' steps).holds (hk h hh)
    · exact ih hs' hh

end Session

end ArrayTypes
