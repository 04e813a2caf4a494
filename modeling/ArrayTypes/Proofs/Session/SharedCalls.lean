import ArrayTypes.Interned.Process
import ArrayTypes.Proofs.Session.Run
import ArrayTypes.Proofs.Session.SharedNames

/-! Calls on stores that share a pool of names come to what calls on registries come to that
each hold the texts of their names. A use of a store is followed beside the same use of a
registry; at every step the pool has grown at most, so that what was read before is still
there. -/

namespace ArrayTypes.Interned

variable {α β γ δ : Type} {p q : NamePool} {s s' : Store} {r r' : Registry}

/-- What a use of a store comes to, against the same use of a registry: the same failure, or
results that are related in the pool as it is then, with the store. -/
inductive Refines (R : NamePool → α → Store → β → Prop) (p : NamePool) :
    Option (Except Failure (α × Store) × NamePool) → Except Failure β → Prop
  | ok {a : α} {s : Store} {q : NamePool} {b : β} :
    p.Grows q → q.Distinct → R q a s b → Refines R p (some (.ok (a, s), q)) (.ok b)
  | error {f : Failure} {q : NamePool} :
    p.Grows q → q.Distinct → Refines R p (some (.error f, q)) (.error f)

/-- The same result, and a store that reads as the registry left behind. -/
def Leaves (q : NamePool) (a : α) (s : Store) (b : α × Registry) : Prop :=
  a = b.1 ∧ s.Reads q b.2

/-- Results that are related, and the store as it was. -/
def Keeps (s : Store) (R : NamePool → α → β → Prop) (q : NamePool) (a : α) (s' : Store) (b : β) :
    Prop :=
  s' = s ∧ R q a b

/-- The same result, in whatever pool. -/
def Same (_ : NamePool) (a b : α) : Prop :=
  a = b

theorem Keeps.map (g : α → γ) {a b : α} (h : Keeps s Same q a s' b) :
    Keeps s Same q (g a) s' (g b) :=
  ⟨h.1, congrArg g h.2⟩

/-- The symbol of the text. -/
def Spells (q : NamePool) (symbol : Symbol) (name : String) : Prop :=
  q.text? symbol = some name

/-- A step that fails ends the use, and the pool keeps what the step put into it. -/
theorem Use.bind_apply (u : Use α) (k : α → Use γ) (s : Store) (p : NamePool) :
    (u >>= k) s p = (u s p).bind fun
      | (.ok (a, s'), q) => k a s' q
      | (.error f, q) => some (.error f, q) := by
  change ((u s p).bind _) = _
  congr 1
  funext ⟨x, q⟩
  cases x <;> rfl

theorem Use.get_bind_apply (k : Store → Use α) (s : Store) (p : NamePool) :
    (get >>= k : Use α) s p = k s s p :=
  rfl

namespace Refines

variable {R : NamePool → α → Store → β → Prop} {S : NamePool → γ → Store → δ → Prop}

theorem grow {x : Option (Except Failure (α × Store) × NamePool)} {y : Except Failure β}
    (hg : p.Grows q) (h : Refines R q x y) : Refines R p x y := by
  cases h with
  | ok hg' hq hab => exact .ok (hg.trans hg') hq hab
  | error hg' hq => exact .error (hg.trans hg') hq

theorem bind {u : Use α} {k : α → Use γ} {y : Except Failure β} {k' : β → Except Failure δ}
    (h : Refines R p (u s p) y)
    (hk : ∀ {q a s' b}, p.Grows q → q.Distinct → R q a s' b → Refines S q (k a s' q) (k' b)) :
    Refines S p ((u >>= k) s p) (y >>= k') := by
  rw [Use.bind_apply]
  generalize u s p = x at h
  cases h with
  | error hg hq => exact .error hg hq
  | ok hg hq hab => exact grow hg (hk hg hq hab)

/-- A step that the registry does not take. -/
theorem bind_ok {u : Use α} {k : α → Use γ} {b : β} {y : Except Failure δ}
    (h : Refines R p (u s p) (.ok b))
    (hk : ∀ {q a s'}, p.Grows q → q.Distinct → R q a s' b → Refines S q (k a s' q) y) :
    Refines S p ((u >>= k) s p) y := by
  rw [Use.bind_apply]
  generalize u s p = x at h
  cases h with
  | ok hg hq hab => exact grow hg (hk hg hq hab)

theorem map {u : Use α} {y : Except Failure β} {g : α → γ} {g' : β → δ}
    (h : Refines R p (u s p) y)
    (hg : ∀ {q a s' b}, p.Grows q → R q a s' b → S q (g a) s' (g' b)) :
    Refines S p ((g <$> u) s p) (g' <$> y) := by
  rw [map_eq_pure_bind, map_eq_pure_bind]
  exact h.bind fun hgrows hq hab => .ok (.refl _) hq (hg hgrows hab)

end Refines

namespace Use

/-! ### Steps -/

theorem refines_look (hp : p.Distinct) {f : Store → Except Failure α} {y : Except Failure α}
    (hf : f s = y) : Refines (Keeps s Same) p (look f s p) y := by
  subst hf
  unfold look
  cases f s with
  | ok a => exact .ok (.refl p) hp ⟨rfl, rfl⟩
  | error e => exact .error (.refl p) hp

theorem refines_entry (hp : p.Distinct) (hr : s.Reads p r) (h : Handle) :
    Refines (Keeps s Entry.Reads) p (entry h s p) (r.get h) := by
  rcases hr.get_cases h with ⟨f, hs, hd⟩ | ⟨e, d, hs, hd, he⟩
  · simp only [entry, look, hs, hd]
    exact .error (.refl p) hp
  · simp only [entry, look, hs, hd]
    exact .ok (.refl p) hp ⟨rfl, he⟩

theorem refines_naming {f : NamePool → Symbol × NamePool} {name : String}
    (made : p.Makes name (f p)) : Refines (Keeps s Spells) p (naming f s p) (.ok name) :=
  .ok made.grows made.distinct ⟨rfl, made.text?_eq⟩

theorem refines_reading (hp : p.Distinct) {f : NamePool → Option α} {a : α} (hf : f p = some a) :
    Refines (Keeps s Same) p (reading f s p) (.ok a) := by
  simp only [reading, hf]
  exact .ok (.refl p) hp ⟨rfl, rfl⟩

theorem refines_text (hp : p.Distinct) {symbol : Symbol} {name : String}
    (hn : Spells p symbol name) : Refines (Keeps s Same) p (text symbol s p) (.ok name) :=
  refines_reading hp hn

/-- The name is made, and then it is read. -/
theorem refines_bind_text {u : Use Symbol} {y : Except Failure String}
    (h : Refines (Keeps s Spells) p (u s p) y) :
    Refines (Keeps s Same) p ((u >>= text) s p) y := by
  rw [← bind_pure y]
  refine h.bind ?_
  rintro q symbol s' name hg hq ⟨rfl, hn⟩
  exact refines_text hq hn

/-- The names are made first and read when both are there. -/
theorem refines_fail {u v : Use Symbol} {y z : Except Failure String}
    (failure : String → String → Failure) (hu : Refines (Keeps s Spells) p (u s p) y)
    (hv : ∀ {q}, p.Grows q → q.Distinct → Refines (Keeps s Spells) q (v s q) z) :
    Refines (Keeps s Same) p ((fail failure u v : Use α) s p)
      (do throw (failure (← y) (← z))) := by
  refine hu.bind ?_
  rintro q x s' a hg hq ⟨rfl, hx⟩
  refine (hv hg hq).bind ?_
  rintro q₁ x' s' b hg₁ hq₁ ⟨rfl, hx'⟩
  refine Refines.bind_ok (refines_text hq₁ (hg₁ _ _ hx)) ?_
  rintro q₂ _ s' hg₂ hq₂ ⟨rfl, rfl⟩
  refine Refines.bind_ok (refines_text hq₂ (hg₂ _ _ hx')) ?_
  rintro q₃ _ s' hg₃ hq₃ ⟨rfl, rfl⟩
  exact .error (.refl q₃) hq₃

/-! ### Requests -/

theorem refines_primitive (hp : p.Distinct) (hr : s.Reads p r) (kind : Kind) :
    Refines Leaves p (primitive kind s p) (.ok (r.primitive kind, r)) :=
  .ok (.refl p) hp ⟨by rw [hr.id_eq, Registry.primitive], hr⟩

theorem refines_reference (hp : p.Distinct) (hr : s.Reads p r) (name : String) :
    Refines Leaves p (reference name s p) (.ok (r.reference name)) := by
  unfold reference
  refine Refines.bind_ok (refines_naming (NamePool.makes_intern hp name)) ?_
  rintro q symbol s' hg hq ⟨rfl, hn⟩
  have hr' := hr.grow hg
  have hl := hr'.lookup_eq hq hn
  unfold Registry.reference
  rw [← hl, get_bind_apply]
  cases hs : s'.references.lookup symbol with
  | some h => exact .ok (.refl q) hq ⟨rfl, hr'⟩
  | none => exact .ok (.refl q) hq ⟨hr'.next_eq, hr'.addReference hn⟩

theorem refines_arrayOf (hp : p.Distinct) (hr : s.Reads p r) (c : Handle) :
    Refines Leaves p (arrayOf c s p) (r.arrayOf c) := by
  have hl : s.arrays.lookup c = r.lookup? (.arrayOf c) := by rw [hr.arrays_eq, Registry.lookup?]
  unfold arrayOf Registry.arrayOf
  rw [hl]
  cases r.lookup? (.arrayOf c) with
  | some h => exact .ok (.refl p) hp ⟨rfl, hr⟩
  | none =>
    -- the component is looked up on both sides, and only the store makes names for the array
    simp only
    split
    next f hf =>
      have hf' := hr.get_eq_error_of_get hf
      split
      next f' hd =>
        cases hf'.symm.trans hd
        exact .error (.refl p) hp
      next d hd => cases hf'.symm.trans hd
    next e he =>
      obtain ⟨d, hd, hed⟩ := hr.exists_get_of_get he
      obtain ⟨display, binary, q, hmade, hdisplay, hbinary, hg, hq⟩ := hed.exists_arrayNames? hp
      rw [hmade]
      split
      next f hf => cases hd.symm.trans hf
      next d' hd' =>
        cases hd.symm.trans hd'
        exact .ok hg hq ⟨hr.next_eq, (hr.grow hg).addArray he hd hdisplay hbinary⟩

theorem refines_primitiveArray (hp : p.Distinct) (hr : s.Reads p r) (kind : Kind) :
    Refines Leaves p (primitiveArray kind s p) (r.primitiveArray kind) := by
  unfold primitiveArray
  refine Refines.bind_ok (refines_primitive hp hr kind) ?_
  rintro q _ s' hg hq ⟨rfl, hr'⟩
  exact refines_arrayOf hq hr' (r.primitive kind)

theorem refines_withDimensions (hp : p.Distinct) (hr : s.Reads p r) (e : Handle) (n : Nat) :
    Refines Leaves p (withDimensions e n s p) (r.withDimensions e n) := by
  induction n generalizing p s r e with
  | zero => exact .ok (.refl p) hp ⟨rfl, hr⟩
  | succ n ih =>
    rw [Registry.withDimensions_succ]
    refine (refines_arrayOf hp hr e).bind ?_
    rintro q level s' ⟨_, r'⟩ hg hq ⟨rfl, hr'⟩
    exact ih hq hr' level

theorem refines_element (hp : p.Distinct) (hr : s.Reads p r) (e : Element) :
    Refines Leaves p (element e s p) (.ok (r.element e)) := by
  cases e with
  | primitive kind => exact refines_primitive hp hr kind
  | reference name => exact refines_reference hp hr name

theorem refines_resolve (hp : p.Distinct) (hr : s.Reads p r) (t : TypeLiteral) :
    Refines Leaves p (resolve t s p) (r.resolve t) := by
  unfold resolve
  refine Refines.bind_ok (refines_element hp hr t.element) ?_
  rintro q _ s' hg hq ⟨rfl, hr'⟩
  exact refines_withDimensions hq hr' _ t.dimensions

theorem refines_forName (hp : p.Distinct) (hr : s.Reads p r) (text : String) :
    Refines Leaves p (forName text s p) (r.forName text) := by
  unfold forName Registry.forName
  cases TypeLiteral.parse text with
  | ok t => exact refines_resolve hp hr t
  | error cause => exact .error (.refl p) hp

/-! ### Questions -/

section Questions

variable (hp : p.Distinct) (hr : s.Reads p r)
include hp hr

theorem refines_name (h : Handle) :
    Refines (Keeps s Spells) p (name h s p) (r.name h) := by
  unfold name Registry.name
  refine (refines_entry hp hr h).bind ?_
  rintro q e _ d hg hq ⟨rfl, he⟩
  exact refines_naming (he.makes_name hq)

theorem refines_binaryName (h : Handle) :
    Refines (Keeps s Spells) p (binaryName h s p) (r.binaryName h) := by
  unfold binaryName Registry.binaryName
  refine (refines_entry hp hr h).bind ?_
  rintro q e _ d hg hq ⟨rfl, he⟩
  exact refines_naming (he.makes_binaryName hq)

theorem refines_descriptor (h : Handle) :
    Refines (Keeps s Same) p (descriptor h s p) (r.get h) := by
  rw [← bind_pure (r.get h)]
  refine (refines_entry hp hr h).bind ?_
  rintro q e s' d hg hq ⟨rfl, he⟩
  exact refines_reading hq he.read?_eq

theorem refines_componentType (h : Handle) :
    Refines (Keeps s Same) p (componentType h s p) (r.componentType h) := by
  refine (refines_entry hp hr h).bind ?_
  rintro q e s' d hg hq ⟨rfl, he⟩
  exact .ok (.refl q) hq ⟨rfl, he.component?_eq⟩

theorem refines_elementType (h : Handle) :
    Refines (Keeps s Same) p (elementType h s p) (r.elementType h) := by
  refine (refines_look hp (hr.unwrap_eq h)).bind ?_
  rintro q x s' y hg hq ⟨rfl, rfl⟩
  exact .ok (.refl q) hq ⟨rfl, rfl⟩

theorem refines_dimensions (h : Handle) :
    Refines (Keeps s Same) p (dimensions h s p) (r.dimensions h) := by
  refine (refines_look hp (hr.unwrap_eq h)).bind ?_
  rintro q x s' y hg hq ⟨rfl, rfl⟩
  exact .ok (.refl q) hq ⟨rfl, rfl⟩

theorem refines_defaultValue (h : Handle) :
    Refines (Keeps s Same) p (defaultValue h s p) (r.defaultValue h) := by
  refine (refines_elementType hp hr h).bind ?_
  rintro q b s' _ hg hq ⟨rfl, rfl⟩
  refine (refines_entry hq (hr.grow hg) b).bind ?_
  rintro q' e s'' d hg' hq' ⟨rfl, he⟩
  exact .ok (.refl q') hq' ⟨rfl, he.scalarDefault_eq⟩

theorem refines_slotDefault (h : Handle) :
    Refines (Keeps s Same) p (slotDefault h s p) (r.slotDefault h) := by
  refine (refines_componentType hp hr h).bind ?_
  rintro q c s' _ hg hq ⟨rfl, rfl⟩
  cases c with
  | none => exact .ok (.refl q) hq ⟨rfl, rfl⟩
  | some c =>
    refine (refines_entry hq (hr.grow hg) c).bind ?_
    rintro q' e s'' d hg' hq' ⟨rfl, he⟩
    exact .ok (.refl q') hq' ⟨rfl, congrArg some he.scalarDefault_eq⟩

theorem refines_inspect (query : Query) (h : Handle) :
    Refines (Keeps s Same) p (inspect h query s p) (r.inspect h query) := by
  cases query with
  | descriptor => exact (refines_descriptor hp hr h).map fun _ => Keeps.map _
  | name => exact (refines_bind_text (refines_name hp hr h)).map fun _ => Keeps.map _
  | binaryName => exact (refines_bind_text (refines_binaryName hp hr h)).map fun _ => Keeps.map _
  | isArray =>
    exact (refines_entry hp hr h).map fun _ ⟨hs, he⟩ => ⟨hs, congrArg Answer.flag he.isArray_eq⟩
  | isPrimitive =>
    exact (refines_entry hp hr h).map fun _ ⟨hs, he⟩ =>
      ⟨hs, congrArg Answer.flag he.isPrimitive_eq⟩
  | component => exact (refines_componentType hp hr h).map fun _ => Keeps.map _
  | element => exact (refines_elementType hp hr h).map fun _ => Keeps.map _
  | dimensions => exact (refines_dimensions hp hr h).map fun _ => Keeps.map _
  | defaultValue => exact (refines_defaultValue hp hr h).map fun _ => Keeps.map _
  | slotDefault => exact (refines_slotDefault hp hr h).map fun _ => Keeps.map _

theorem refines_isNamed (h : Handle) (text : String) :
    Refines (Keeps s Same) p (isNamed h text s p)
      ((fun name => decide (name = text)) <$> r.name h) := by
  rw [map_eq_pure_bind]
  refine (refines_name hp hr h).bind ?_
  rintro q symbol s' name hg hq ⟨rfl, hn⟩
  exact refines_reading hq (congrArg some (NamePool.spells_eq hq hn text))

theorem refines_judge (source target : Handle) :
    Refines (Keeps s Same) p (judge source target s p) (r.judge source target) := by
  simp only [judge, hr.judge_eq]
  exact refines_look (f := fun _ => r.judge source target) hp rfl

theorem refines_isAssignable (H : Hierarchy) (source target : Handle) :
    Refines (Keeps s Same) p (isAssignable H source target s p)
      (r.isAssignable H source target) := by
  refine (refines_judge hp hr source target).bind ?_
  rintro q j s' _ hg hq ⟨rfl, rfl⟩
  exact .ok (.refl q) hq ⟨rfl, rfl⟩

theorem refines_checkedCast (H : Hierarchy) (source target : Handle) :
    Refines (Keeps s Same) p (checkedCast H source target s p)
      (r.checkedCast H source target) := by
  refine (refines_isAssignable hp hr H source target).bind ?_
  rintro q b s' _ hg hq ⟨rfl, rfl⟩
  cases b with
  | true => exact .ok (.refl q) hq ⟨rfl, rfl⟩
  | false =>
    exact refines_fail .classCast (refines_binaryName hq (hr.grow hg) source) fun hg' hq' =>
      refines_binaryName hq' (hr.grow (hg.trans hg')) target

theorem refines_checkStore (H : Hierarchy) (array value : Handle) :
    Refines (Keeps s Same) p (checkStore H array value s p) (r.checkStore H array value) := by
  refine (refines_componentType hp hr array).bind ?_
  rintro q c s' _ hg hq ⟨rfl, rfl⟩
  cases c with
  | none =>
    refine (refines_name hq (hr.grow hg) array).bind ?_
    rintro q₁ symbol s' name hg₁ hq₁ ⟨rfl, hn⟩
    refine Refines.bind_ok (refines_text hq₁ hn) ?_
    rintro q₂ _ s' hg₂ hq₂ ⟨rfl, rfl⟩
    exact .error (.refl q₂) hq₂
  | some c =>
    refine (refines_isAssignable hq (hr.grow hg) H value c).bind ?_
    rintro q₁ b s' _ hg₁ hq₁ ⟨rfl, rfl⟩
    cases b with
    | true => exact .ok (.refl q₁) hq₁ ⟨rfl, rfl⟩
    | false =>
      have hr₁ := hr.grow (hg.trans hg₁)
      exact refines_fail .arrayStore (refines_name hq₁ hr₁ value) fun hg' hq' =>
        refines_name hq' (hr₁.grow hg') c

end Questions

end Use

/-! ### Calls -/

section Answers

variable {u : Use α}

theorem Refines.made {u : Use Handle} {y : Except Failure (Handle × Registry)}
    (h : Refines Leaves p (u s p) y) :
    Refines Leaves p ((Answer.handle <$> u) s p) (Registry.made <$> y) :=
  h.map fun _ ⟨ha, hr⟩ => ⟨congrArg Answer.handle ha, hr⟩

/-- A use that leaves the store as it was leaves the registry as it was. -/
theorem Refines.told {y : Except Failure α} (hr : s.Reads p r)
    (h : Refines (Keeps s Same) p (u s p) y) (g : α → Answer) :
    Refines Leaves p ((g <$> u) s p) ((fun a => (g a, r)) <$> y) :=
  h.map fun hg ⟨hs, ha⟩ => ⟨congrArg g ha, hs ▸ hr.grow hg⟩

end Answers

/-- A call on the store is answered as on the registry. -/
theorem Access.refines_perform (hp : p.Distinct) (hr : s.Reads p r) (a : Access) :
    Refines Leaves p (a.perform s p) (r.perform a.call) := by
  cases a with
  | primitive kind => exact (Use.refines_primitive hp hr kind).made
  | primitiveArray kind => exact (Use.refines_primitiveArray hp hr kind).made
  | reference name => exact (Use.refines_reference hp hr name).made
  | arrayOf c => exact (Use.refines_arrayOf hp hr c).made
  | withDimensions e n => exact (Use.refines_withDimensions hp hr e n).made
  | resolve t => exact (Use.refines_resolve hp hr t).made
  | forName text => exact (Use.refines_forName hp hr text).made
  | inspect query h =>
    rw [Access.perform, ← id_map (Use.inspect h query)]
    exact (Use.refines_inspect hp hr query h).told hr id
  | isNamed h text =>
    have hnamed := (Use.refines_isNamed hp hr h text).told hr Answer.flag
    rw [← comp_map] at hnamed
    exact hnamed
  | assignable source target H => exact (Use.refines_judge hp hr source target).told hr _
  | checkedCast source target H => exact (Use.refines_checkedCast hp hr H source target).told hr _
  | checkStore array value H => exact (Use.refines_checkStore hp hr H array value).told hr _
  | count => exact .ok (.refl p) hp ⟨congrArg Answer.number hr.size_eq, hr⟩

/-! ### Fresh stores -/

namespace Store.Reads

theorem exists_addPrimitiveArray (hp : p.Distinct) (hr : s.Reads p r) (kind : Kind) :
    ∃ s' q, addPrimitiveArray (s, p) kind = some (s', q) ∧ p.Grows q ∧ q.Distinct ∧
      s'.Reads q (r.after (r.primitiveArray kind)) := by
  have h := Use.refines_primitiveArray hp hr kind
  simp only [addPrimitiveArray]
  generalize Use.primitiveArray kind s p = x, r.primitiveArray kind = y at h
  cases h with
  | ok hg hq hr' => exact ⟨_, _, rfl, hg, hq, hr'.2⟩
  | error hg hq => exact ⟨s, _, rfl, hg, hq, hr.grow hg⟩

theorem exists_preload (hp : p.Distinct) (hr : s.Reads p r) :
    ∃ s' q, s.preload p = some (s', q) ∧ p.Grows q ∧ q.Distinct ∧ s'.Reads q r.preload := by
  unfold Store.preload Registry.preload
  induction Kind.all generalizing s p r with
  | nil => exact ⟨s, p, rfl, .refl p, hp, hr⟩
  | cons kind kinds ih =>
    obtain ⟨s₁, p₁, h₁, hg₁, hp₁, hr₁⟩ := hr.exists_addPrimitiveArray hp kind
    obtain ⟨s₂, p₂, h₂, hg₂, hp₂, hr₂⟩ := ih hp₁ hr₁
    refine ⟨s₂, p₂, ?_, hg₁.trans hg₂, hp₂, hr₂⟩
    simp only [List.foldlM_cons, h₁, Option.bind_eq_bind, Option.bind_some, h₂]

theorem exists_fresh (hp : p.Distinct) (id : Nat) (config : Config) :
    ∃ s q, Store.fresh id config p = some (s, q) ∧ p.Grows q ∧ q.Distinct ∧
      s.Reads q (Registry.fresh id config) := by
  unfold Store.fresh Registry.fresh
  split
  · exact (bare p id).exists_preload hp
  · exact ⟨_, p, rfl, .refl p, hp, bare p id⟩

end Store.Reads

/-! ### Processes -/

/-- The process is the session once its symbols are read in the pool. -/
structure Process.Reads (pr : Process) (s : Session) : Prop where
  distinct : pr.pool.Distinct
  stores : List.Forall₂ (Store.Reads pr.pool) pr.stores s.registries

theorem Process.replies_cons {pr pr' : Process} {e : Event} {events : List Event}
    {reply : Option Reply} {rest : List Reply} (hpr : pr.respond e = some (reply, pr'))
    (hrest : pr'.replies events = some rest) :
    pr.replies (e :: events) = some (reply.toList ++ rest) := by
  simp only [replies, hpr, hrest, Option.bind_eq_bind, Option.bind_some, Option.pure_def]

namespace Process.Reads

variable {pr : Process} {s : Session}

/-- What one part of a process adds to the pool disturbs none of the others. -/
theorem grow (h : pr.Reads s) (hq : q.Distinct) (hg : pr.pool.Grows q) :
    Process.Reads ⟨q, pr.stores⟩ s :=
  ⟨hq, h.stores.imp fun _ _ => Store.Reads.grow hg⟩

theorem intern (h : pr.Reads s) (name : String) :
    Process.Reads { pr with pool := (pr.pool.intern name).2 } s :=
  have made := NamePool.makes_intern h.distinct name
  h.grow made.distinct made.grows

theorem exists_addRegistry (h : pr.Reads s) (config : Config) :
    ∃ pr', pr.addRegistry config = some pr' ∧ pr'.Reads (s.step (.newRegistry config)).2 := by
  obtain ⟨t, q, ht, hg, hq, hr⟩ :=
    Store.Reads.exists_fresh h.distinct s.registries.length config
  refine ⟨⟨q, pr.stores ++ [t]⟩, ?_, hq, List.rel_append (h.grow hq hg).stores (.cons hr .nil)⟩
  simp only [addRegistry, h.stores.length_eq, ht, Option.bind_eq_bind, Option.bind_some,
    Option.pure_def]

theorem exists_start (configs : List Config) (hierarchies : List SessionHierarchy) :
    ∃ pr, Process.start configs = some pr ∧ pr.Reads (Session.start configs hierarchies) := by
  induction configs using List.reverseRecOn with
  | nil => exact ⟨_, rfl, NamePool.distinct_empty, .nil⟩
  | append_singleton configs config ih =>
    obtain ⟨pr, hpr, h⟩ := ih
    obtain ⟨pr', hpr', h'⟩ := h.exists_addRegistry config
    refine ⟨pr', ?_, h'.distinct, ?_⟩
    · rw [Process.start] at hpr
      simp [Process.start, List.foldlM_append, hpr, hpr']
    · have hstores := h'.stores
      simp only [Session.step, Session.start, List.length_mapIdx] at hstores
      simpa only [Session.start, List.mapIdx_concat] using hstores

/-- A call is replied to as in the session. -/
theorem exists_access (h : pr.Reads s) (i : Nat) (a : Access) :
    ∃ pr', pr.respond (.access i a) = some (some (s.perform i a.call).1, pr') ∧
      pr'.Reads (s.perform i a.call).2 := by
  unfold respond
  have hi := optionRel_getElem? h.stores i
  cases hr : s.registries[i]? with
  | none =>
    rw [hr] at hi
    simp only [Session.perform, hr]
    generalize pr.stores[i]? = x at hi
    cases hi
    exact ⟨pr, rfl, h⟩
  | some r =>
    rw [hr] at hi
    obtain ⟨t, ht, htr⟩ := exists_of_optionRel_some_right hi
    have ha := a.refines_perform h.distinct htr
    simp only [ht]
    generalize a.perform t pr.pool = x, hy : r.perform a.call = y at ha
    cases ha with
    | error hg hq =>
      rw [Session.perform_of_eq_error hr hy]
      exact ⟨_, rfl, h.grow hq hg⟩
    | ok hg hq hr' =>
      obtain ⟨rfl, hr'⟩ := hr'
      rw [Session.perform_of_eq_ok hr hy]
      exact ⟨_, rfl, hq, forall₂_set (h.grow hq hg).stores hr' i⟩

end Process.Reads

end ArrayTypes.Interned
