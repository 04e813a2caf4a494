import ArrayTypes.Proofs.Session.Run

/-! Handles as identities. Whichever calls a handle came from and however long ago, it
stands for one type for ever, and no other handle of its registry stands for it. -/

namespace ArrayTypes.Session

/-- The descriptor behind a handle, in the registry that owns the handle. -/
def descriptorOf? (s : Session) (h : Handle) : Option Descriptor := do
  (← s.registries[h.owner]?).find? h

/-- The type that a handle denotes in the registry that owns it. -/
def typeOf? (s : Session) (h : Handle) : Option TypeLiteral := do
  (← s.registries[h.owner]?).typeOf? h

variable {s : Session}

theorem descriptorOf?_eq_some_iff {h : Handle} {d : Descriptor} :
    s.descriptorOf? h = some d ↔ ∃ r, s.registries[h.owner]? = some r ∧ r.get h = .ok d := by
  simp only [descriptorOf?, Option.bind_eq_bind, Option.bind_eq_some_iff,
    Registry.find?_eq_some_iff]

theorem typeOf?_eq_some_iff {h : Handle} {t : TypeLiteral} :
    s.typeOf? h = some t ↔ ∃ r, s.registries[h.owner]? = some r ∧ r.Denotes h t := by
  simp only [typeOf?, Option.bind_eq_bind, Option.bind_eq_some_iff,
    Registry.typeOf?_eq_some_iff]

theorem exists_typeOf? (hs : s.Sound) {h : Handle} (hh : s.Holds h) :
    ∃ t, s.typeOf? h = some t := by
  obtain ⟨r, d, hr, hd⟩ := hh
  obtain ⟨t, ht⟩ := (hs.consistent hr).exists_denotes hd
  exact ⟨t, typeOf?_eq_some_iff.2 ⟨r, hr, ht⟩⟩

theorem typeOf?_of_grows {s' : Session} (hg : s.Grows s') {h : Handle} {t : TypeLiteral}
    (ht : s.typeOf? h = some t) : s'.typeOf? h = some t := by
  obtain ⟨r, hr, hd⟩ := typeOf?_eq_some_iff.1 ht
  obtain ⟨r', hr', hrg⟩ := hg _ r hr
  exact typeOf?_eq_some_iff.2 ⟨r', hr', hd.grows hrg⟩

theorem typeOf?_run (hs : s.Sound) {h : Handle} {t : TypeLiteral} (ht : s.typeOf? h = some t)
    (later : List Step) : (s.run later).typeOf? h = some t :=
  typeOf?_of_grows (grows_run hs later) ht

theorem descriptorOf?_run (hs : s.Sound) {h : Handle} {d : Descriptor}
    (hd : s.descriptorOf? h = some d) (later : List Step) :
    (s.run later).descriptorOf? h = some d := by
  obtain ⟨r, hr, hg⟩ := descriptorOf?_eq_some_iff.1 hd
  obtain ⟨r', hr', hgr⟩ := grows_run hs later _ r hr
  exact descriptorOf?_eq_some_iff.2 ⟨r', hr', hgr.get_of_get hg⟩

/-- Two handles of one registry are the same just if their types are. -/
theorem eq_iff_of_typeOf? (hs : s.Sound) {g h : Handle} (ho : g.owner = h.owner)
    {t u : TypeLiteral} (hg : s.typeOf? g = some t) (hh : s.typeOf? h = some u) :
    g = h ↔ t = u := by
  obtain ⟨r, hr, hgt⟩ := typeOf?_eq_some_iff.1 hg
  obtain ⟨r', hr', hht⟩ := typeOf?_eq_some_iff.1 hh
  rw [ho] at hr
  cases hr.symm.trans hr'
  exact hgt.eq_iff (hs.consistent hr) hht

theorem typeOf?_resolve (hs : s.Sound) {i : Nat} (hi : i < s.registries.length) (t : TypeLiteral)
    (name : Option String) :
    ∃ h s', s.step (.call i (.resolve t) name) = (.answer (.handle h), s') ∧ h.owner = i ∧
      s'.typeOf? h = some t := by
  have hr : s.registries[i]? = some s.registries[i] := List.getElem?_eq_getElem hi
  obtain ⟨h, r', hres, ht⟩ := Registry.exists_resolve (hs.consistent hr) t
  have ho : h.owner = i := by
    obtain ⟨d, hd⟩ := ht.exists_get
    rw [(Registry.get_eq_ok_iff.1 hd).1, (Registry.grows_of_resolve hres).id_eq]
    exact (hs.registry hr).1
  have hp : s.perform i (.resolve t) =
      (.answer (.handle h), { s with registries := s.registries.set i r' }) := by
    have hm : (s.registries[i]).perform (.resolve t) = .ok (.handle h, r') :=
      Registry.map_made_eq_ok_iff.2 ⟨h, hres, rfl⟩
    simp only [perform, hr, hm]
  refine ⟨h, _, by simp only [step, Call.traverse, Call.map, hp, report]; rfl, ho, ?_⟩
  refine typeOf?_eq_some_iff.2 ⟨r', ?_, ht⟩
  rw [registries_keep, ho]
  exact List.getElem?_set_self hi

/-- Any two handles that a session ever returned denote types, the same ones for ever, and
two handles of one registry are equal just if their types are. Resolving a type returns
a handle of that very type. What stands behind a returned handle never changes. -/
theorem handles_identify_types (configs : List Config) (hierarchies : List SessionHierarchy)
    (steps : List Step) :
    let s := (start configs hierarchies).run steps
    let returned := (start configs hierarchies).returned steps
    (∀ g ∈ returned, ∀ h ∈ returned, ∃ t u,
      (∀ later, (s.run later).typeOf? g = some t ∧ (s.run later).typeOf? h = some u) ∧
      (g.owner = h.owner → (g = h ↔ t = u))) ∧
    (∀ i < s.registries.length, ∀ (t : TypeLiteral) (name : Option String), ∃ h s',
      s.step (.call i (.resolve t) name) = (.answer (.handle h), s') ∧ h.owner = i ∧
      s'.typeOf? h = some t) ∧
    (∀ h ∈ returned, ∃ d, ∀ later, (s.run later).descriptorOf? h = some d) := by
  intro s returned
  have hs₀ := sound_start configs hierarchies
  have hs : s.Sound := sound_run hs₀ steps
  refine ⟨?_, fun i hi t name => typeOf?_resolve hs hi t name, ?_⟩
  · intro g hg h hh
    obtain ⟨t, ht⟩ := exists_typeOf? hs (holds_of_mem_returned hs₀ hg)
    obtain ⟨u, hu⟩ := exists_typeOf? hs (holds_of_mem_returned hs₀ hh)
    exact ⟨t, u, fun later => ⟨typeOf?_run hs ht later, typeOf?_run hs hu later⟩,
      fun ho => eq_iff_of_typeOf? hs ho ht hu⟩
  · intro h hh
    obtain ⟨r, d, hr, hd⟩ := holds_of_mem_returned hs₀ hh
    exact ⟨d, descriptorOf?_run hs (descriptorOf?_eq_some_iff.2 ⟨r, hr, hd⟩)⟩

end ArrayTypes.Session
