import ArrayTypes.Proofs.Concurrency.Together

/-! Calls on twins. A call that is made of both, with handles that correspond, is answered alike
by both or fails alike in both, and leaves twins behind. -/

namespace ArrayTypes

/-! ### The same call with other handles -/

namespace Call

/-- Two calls that are the same but for their handles, which are related. -/
inductive Alike {η : Type} (same : Handle → Handle → Prop) : Call Handle η → Call Handle η → Prop
  | primitive (kind : Kind) : Alike same (.primitive kind) (.primitive kind)
  | primitiveArray (kind : Kind) : Alike same (.primitiveArray kind) (.primitiveArray kind)
  | reference (name : String) : Alike same (.reference name) (.reference name)
  | arrayOf {c c' : Handle} (hc : same c c') : Alike same (.arrayOf c) (.arrayOf c')
  | withDimensions {e e' : Handle} (he : same e e') (n : Nat) :
    Alike same (.withDimensions e n) (.withDimensions e' n)
  | resolve (t : TypeLiteral) : Alike same (.resolve t) (.resolve t)
  | forName (text : String) : Alike same (.forName text) (.forName text)
  | inspect (query : Query) {h h' : Handle} (hh : same h h') :
    Alike same (.inspect query h) (.inspect query h')
  | isNamed {h h' : Handle} (hh : same h h') (text : String) :
    Alike same (.isNamed h text) (.isNamed h' text)
  | assignable {a a' b b' : Handle} (ha : same a a') (hb : same b b') (H : η) :
    Alike same (.assignable a b H) (.assignable a' b' H)
  | checkedCast {a a' b b' : Handle} (ha : same a a') (hb : same b b') (H : η) :
    Alike same (.checkedCast a b H) (.checkedCast a' b' H)
  | checkStore {a a' b b' : Handle} (ha : same a a') (hb : same b b') (H : η) :
    Alike same (.checkStore a b H) (.checkStore a' b' H)
  | count : Alike same .count .count
  | resolveTogether (threads : Nat) (texts : List String) :
    Alike same (.resolveTogether threads texts) (.resolveTogether threads texts)
  | raceTogether (threads rounds : Nat) (name : String) :
    Alike same (.raceTogether threads rounds name) (.raceTogether threads rounds name)

variable {ι η θ : Type} {same : Handle → Handle → Prop} {c c' : Call Handle η}

/-- The answer tells how many descriptors there are. -/
def tellsCount : Call ι η → Bool
  | count | resolveTogether _ _ | raceTogether _ _ _ => true
  | _ => false

theorem Alike.map (hc : c.Alike same c') (g : η → θ) : (c.map g).Alike same (c'.map g) := by
  cases hc <;> constructor <;> assumption

theorem Alike.hierarchy?_eq (hc : c.Alike same c') : c.hierarchy? = c'.hierarchy? := by
  cases hc <;> rfl

theorem Alike.forall₂_handles (hc : c.Alike same c') : List.Forall₂ same c.handles c'.handles := by
  cases hc with
  | arrayOf h | withDimensions h | inspect _ h | isNamed h => exact .cons h .nil
  | assignable ha hb | checkedCast ha hb | checkStore ha hb => exact .cons ha (.cons hb .nil)
  | _ => exact .nil

end Call

namespace Registry

variable {extra : Set TypeLiteral} {r r' : Registry} {same : Handle → Handle → Prop}
  {g g' h h' : Handle} {call call' : Call Handle Hierarchy}

/-- A relation of the handles that calls on `r` and on `r'` are given. Handles of other
registries are related too, but never to handles of these. -/
structure Pairing (r r' : Registry) (same : Handle → Handle → Prop) : Prop where
  owner_eq : ∀ {g h : Handle}, same g h → g.owner = h.owner
  eq_iff : ∀ {g h g' h' : Handle}, same g h → same g' h' → (g = g' ↔ h = h')
  corresponds : ∀ {g h : Handle}, same g h → g.owner = r.id → Corresponds r r' g h

namespace Twin

/-- Both calls are answered alike and leave twins behind, or both fail alike. -/
inductive Outcomes (extra : Set TypeLiteral) (same : Handle → Handle → Prop) (counted : Bool) :
    Except Failure (Answer × Registry) → Except Failure (Answer × Registry) → Prop
  | answers {r r' : Registry} {a b : Answer} (ht : Twin extra r r')
    (ha : a.Alike (fun g h => same g h ∨ Corresponds r r' g h)
      (if counted then (extra \ r'.types).ncard else 0) b) :
    Outcomes extra same counted (.ok (a, r)) (.ok (b, r'))
  | failures {f f' : Failure} (hf : f.Alike same f') :
    Outcomes extra same counted (.error f) (.error f')

/-! ### Foreign handles -/

theorem foreign?_alike (ht : Twin extra r r') (hp : Pairing r r' same) (hs : same g h) :
    Option.Rel same (r.foreign? g) (r'.foreign? h) := by
  rw [foreign?, foreign?, hp.owner_eq hs, ht.id_eq]
  split
  · exact .none
  · exact .some hs

theorem any_isArray_eq (ht : Twin extra r r') (hp : Pairing r r' same) (hs : same g h) :
    (r.find? g).any (·.isArray) = (r'.find? h).any (·.isArray) := by
  by_cases ho : g.owner = r.id
  · obtain ⟨t, hg, hh⟩ := hp.corresponds hs ho
    obtain ⟨d, hd⟩ := hg.exists_get
    obtain ⟨e, he⟩ := hh.exists_get
    rw [find?_eq_some_iff.2 hd, find?_eq_some_iff.2 he, Option.any_some, Option.any_some,
      hg.isArray_eq hd, hh.isArray_eq he]
  · have ho' : h.owner ≠ r'.id := by rwa [← hp.owner_eq hs, ← ht.id_eq]
    rw [find?, find?, if_neg ho, if_neg ho']

theorem firstForeign?_alike (ht : Twin extra r r') (hp : Pairing r r' same)
    (hc : call.Alike same call') :
    Option.Rel same (r.firstForeign? call) (r'.firstForeign? call') := by
  cases hc with
  | arrayOf hs | inspect _ hs | isNamed hs => exact ht.foreign?_alike hp hs
  | withDimensions hs n =>
    cases n with
    | zero => exact .none
    | succ n => exact ht.foreign?_alike hp hs
  | assignable ha hb | checkedCast ha hb =>
    simp only [firstForeign?, hp.eq_iff ha hb]
    split
    · exact .none
    · exact optionRel_or (ht.foreign?_alike hp ha) (ht.foreign?_alike hp hb)
  | checkStore ha hb =>
    simp only [firstForeign?, ht.any_isArray_eq hp ha]
    refine optionRel_or (ht.foreign?_alike hp ha) ?_
    split
    · exact ht.foreign?_alike hp hb
    · exact .none
  | _ => exact .none

/-! ### Calls that find what they look for -/

theorem meets (ht : Twin extra r r') (hp : Pairing r r' same) (hc : call.Alike same call') :
    r.Meets call ∧ r'.Meets call' := by
  have hmeets {gs hs : List Handle} (h : List.Forall₂ same gs hs) :
      (∀ g ∈ gs, g.owner = r.id → ∃ d, r.get g = .ok d) ∧
        ∀ h ∈ hs, h.owner = r'.id → ∃ d, r'.get h = .ok d := by
    induction h with
    | nil => simp
    | @cons g h gs hs hs' _ ih =>
      rw [List.forall_mem_cons, List.forall_mem_cons]
      refine ⟨⟨fun ho => ?_, ih.1⟩, fun ho => ?_, ih.2⟩
      · obtain ⟨t, hg, -⟩ := hp.corresponds hs' ho
        exact hg.exists_get
      · rw [← hp.owner_eq hs', ← ht.id_eq] at ho
        obtain ⟨t, -, hh⟩ := hp.corresponds hs' ho
        exact hh.exists_get
  exact hmeets hc.forall₂_handles

theorem Made.outcomes {x x' : Except Failure (Handle × Registry)} (hm : Made extra x x') :
    Outcomes extra same false (made <$> x) (made <$> x') := by
  obtain ⟨g, s, h, s', rfl, rfl, ht, hc⟩ := hm
  exact .answers ht (.handle (.inr hc))

/-- An own handle is looked up, if no foreign one is. -/
theorem corresponds_of_foreign? (hp : Pairing r r' same) (hs : same g h)
    (hf : r.foreign? g = none) : Corresponds r r' g h :=
  hp.corresponds hs (foreign?_eq_none_iff.1 hf)

theorem corresponds_pair (hp : Pairing r r' same) (hs : same g h) (hs' : same g' h')
    (hf : (r.foreign? g).or (r.foreign? g') = none) :
    Corresponds r r' g h ∧ Corresponds r r' g' h' := by
  obtain ⟨hg, hg'⟩ := Option.or_eq_none_iff.1 hf
  exact ⟨corresponds_of_foreign? hp hs hg, corresponds_of_foreign? hp hs' hg'⟩

theorem outcomes_checkedCast (ht : Twin extra r r') (hp : Pairing r r' same) (hs : same g h)
    (hs' : same g' h') (H : Hierarchy) (hf : r.firstForeign? (.checkedCast g g' H) = none) :
    Outcomes extra same false (r.perform (.checkedCast g g' H)) (r'.perform (.checkedCast h h' H)) := by
  rw [perform, perform]
  by_cases he : g = g'
  · have he' : h = h' := (hp.eq_iff hs hs').1 he
    rw [he, he', checkedCast_self, checkedCast_self]
    exact .answers ht (.handle (.inl hs'))
  · rw [firstForeign?, if_neg he] at hf
    obtain ⟨⟨t, hg, hh⟩, u, hg', hh'⟩ := corresponds_pair hp hs hs' hf
    rw [checkedCast_eq ht.consistent_left hg hg', checkedCast_eq ht.consistent_right hh hh']
    split
    · exact .answers ht (.handle (.inl hs'))
    · exact .failures (.classCast _ _)

theorem outcomes_checkStore (ht : Twin extra r r') (hp : Pairing r r' same) (hs : same g h)
    (hs' : same g' h') (H : Hierarchy) (hf : r.firstForeign? (.checkStore g g' H) = none) :
    Outcomes extra same false (r.perform (.checkStore g g' H)) (r'.perform (.checkStore h h' H)) := by
  obtain ⟨harray, hvalue⟩ := Option.or_eq_none_iff.1 hf
  obtain ⟨⟨e, n⟩, hg, hh⟩ := corresponds_of_foreign? hp hs harray
  rw [perform, perform]
  cases n with
  | zero =>
    rw [checkStore_scalar ht.consistent_left hg, checkStore_scalar ht.consistent_right hh]
    exact .failures (.notAnArray _)
  | succ n =>
    obtain ⟨d, hd⟩ := hg.exists_get
    have hisArray : d.isArray = true := by simp [hg.isArray_eq hd]
    rw [find?_eq_some_iff.2 hd, Option.any_some, if_pos hisArray] at hvalue
    obtain ⟨v, hg', hh'⟩ := corresponds_of_foreign? hp hs' hvalue
    rw [checkStore_array ht.consistent_left hg hg', checkStore_array ht.consistent_right hh hh']
    split
    · exact .answers ht .nothing
    · exact .failures (.arrayStore _ _)

theorem outcomes_of_firstForeign?_eq_none (ht : Twin extra r r') (hp : Pairing r r' same)
    (hc : call.Alike same call') (hf : r.firstForeign? call = none) :
    Outcomes extra same call.tellsCount (r.perform call) (r'.perform call') := by
  cases hc with
  | primitive kind => exact .answers ht (.handle (.inr (ht.corresponds_primitive kind)))
  | primitiveArray kind => exact (ht.arrayOf (ht.corresponds_primitive kind)).outcomes
  | reference name =>
    obtain ⟨g, s, h, s', hg, hh, ht₁, hc₁⟩ := ht.reference name
    rw [perform, perform, Except.ok.inj hg, Except.ok.inj hh]
    exact .answers ht₁ (.handle (.inr hc₁))
  | arrayOf hs => exact (ht.arrayOf (corresponds_of_foreign? hp hs hf)).outcomes
  | withDimensions hs n =>
    cases n with
    | zero => exact .answers ht (.handle (.inl hs))
    | succ n => exact (ht.withDimensions (corresponds_of_foreign? hp hs hf) (n + 1)).outcomes
  | resolve t => exact (ht.resolve t).outcomes
  | forName text =>
    rw [perform, perform, forName, forName]
    cases TypeLiteral.parse text with
    | ok t => exact (ht.resolve t).outcomes
    | error cause => exact .failures (.invalidTypeLiteral text cause)
  | inspect query hs =>
    obtain ⟨a, b, ha, hb, hab⟩ := ht.inspect (corresponds_of_foreign? hp hs hf) query
    rw [perform, perform, ha, hb]
    exact .answers ht (hab.imp fun _ _ => .inr)
  | isNamed hs text =>
    obtain ⟨t, hg, hh⟩ := corresponds_of_foreign? hp hs hf
    rw [perform, perform, hg.name_eq ht.consistent_left, hh.name_eq ht.consistent_right]
    exact .answers ht (.flag _)
  | @assignable g h g' h' hs hs' H =>
    rw [perform, perform]
    by_cases he : g = g'
    · have he' : h = h' := (hp.eq_iff hs hs').1 he
      rw [he, he', judge_self, judge_self]
      exact .answers ht (.assignable _ _)
    · rw [firstForeign?, if_neg he] at hf
      obtain ⟨⟨t, hg, hh⟩, u, hg', hh'⟩ := corresponds_pair hp hs hs' hf
      rw [judge_eq ht.consistent_left hg hg', judge_eq ht.consistent_right hh hh']
      exact .answers ht (.assignable _ _)
  | checkedCast hs hs' H => exact ht.outcomes_checkedCast hp hs hs' H hf
  | checkStore hs hs' H => exact ht.outcomes_checkStore hp hs hs' H hf
  | count =>
    rw [perform, perform, ht.count_eq]
    exact .answers ht (.number _)
  | resolveTogether threads texts =>
    obtain ⟨hagree, htwin⟩ := ht.resolveTogether threads texts
    simp only [perform, hagree, htwin.count_eq]
    exact .answers htwin (.agreement _ _)
  | raceTogether threads rounds name =>
    obtain ⟨hagree, htwin⟩ := ht.raceTogether threads rounds name
    simp only [perform, hagree, htwin.count_eq]
    exact .answers htwin (.agreement _ _)

/-- A call on twins, with handles that correspond. -/
theorem outcomes_perform (ht : Twin extra r r') (hp : Pairing r r' same)
    (hc : call.Alike same call') :
    Outcomes extra same call.tellsCount (r.perform call) (r'.perform call') := by
  obtain ⟨hm, hm'⟩ := ht.meets hp hc
  have hforeign := ht.firstForeign?_alike hp hc
  cases hf : r.firstForeign? call with
  | none => exact ht.outcomes_of_firstForeign?_eq_none hp hc hf
  | some g =>
    rw [hf] at hforeign
    cases hf' : r'.firstForeign? call' with
    | none => rw [hf'] at hforeign; cases hforeign
    | some h =>
      rw [hf'] at hforeign
      cases hforeign with
      | some hs =>
        rw [perform_of_firstForeign? ht.consistent_left hm hf,
          perform_of_firstForeign? ht.consistent_right hm' hf', ht.id_eq]
        exact .failures (.foreignHandle hs _)

end Twin

end Registry

end ArrayTypes
