import ArrayTypes.Interned
import ArrayTypes.Proofs.NamePool
import ArrayTypes.Proofs.Related
import ArrayTypes.Proofs.Registry.Foreign

/-! Stores and the registries that they are once their symbols are read. The symbols of a pool
that only grows stand for the same texts for ever, and one symbol for each text, so that the memo
of a store finds what the memo of the registry finds. Chains of components and the check of
assignability make no names and are the same on both. -/

namespace ArrayTypes.Interned

variable {p q : NamePool} {e : Entry} {d : Descriptor} {s : Store} {r : Registry}

/-! ### Entries -/

/-- The entry is the descriptor once its symbols are read in the pool. -/
inductive Entry.Reads (p : NamePool) : Entry → Descriptor → Prop
  | primitive (kind : Kind) : Reads p (.primitive kind) (.primitive kind)
  | array {component : Handle} {display binary : Symbol} {name binaryName : String} :
    p.text? display = some name → p.text? binary = some binaryName →
      Reads p (.array component display binary) (.array component name binaryName)
  | reference {symbol : Symbol} {name : String} :
    p.text? symbol = some name → Reads p (.reference symbol) (.reference name)

namespace Entry.Reads

theorem grow (hg : p.Grows q) (h : e.Reads p d) : e.Reads q d := by
  cases h with
  | primitive kind => exact .primitive kind
  | array hd hb => exact .array (hg _ _ hd) (hg _ _ hb)
  | reference hn => exact .reference (hg _ _ hn)

theorem read?_eq (h : e.Reads p d) : e.read? p = some d := by
  cases h with
  | primitive kind => rfl
  | array hd hb => simp [read?, hd, hb]
  | reference hn => simp [read?, hn]

theorem makes_name (hp : p.Distinct) (h : e.Reads p d) : p.Makes d.name (e.name p) := by
  cases h with
  | primitive kind => exact NamePool.makes_intern hp kind.name
  | array hd _ => exact NamePool.makes_of_text? hp hd
  | reference hn => exact NamePool.makes_of_text? hp hn

theorem makes_binaryName (hp : p.Distinct) (h : e.Reads p d) :
    p.Makes d.binaryName (e.binaryName p) := by
  cases h with
  | primitive kind => exact NamePool.makes_intern hp kind.name
  | array _ hb => exact NamePool.makes_of_text? hp hb
  | reference hn => exact NamePool.makes_of_text? hp hn

theorem elementCode?_eq (h : e.Reads p d) : e.elementCode? p = some d.elementCode := by
  cases h with
  | primitive kind => rfl
  | array _ hb => exact hb
  | reference hn => simp [elementCode?, Descriptor.elementCode, hn]

/-- An array class gets its two names from symbols as it gets them from texts. -/
theorem exists_arrayNames? (hp : p.Distinct) (h : e.Reads p d) :
    ∃ display binary q, e.arrayNames? p = some ((display, binary), q) ∧
      q.text? display = some (d.name ++ "[]") ∧ q.text? binary = some ("[" ++ d.elementCode) ∧
      p.Grows q ∧ q.Distinct := by
  have own := h.makes_name hp
  have display := NamePool.makes_intern own.distinct (d.name ++ "[]")
  have hcode := (h.grow (own.grows.trans display.grows)).elementCode?_eq
  have binary := NamePool.makes_intern display.distinct ("[" ++ d.elementCode)
  refine ⟨_, _, _, ?_, binary.grows _ _ display.text?_eq, binary.text?_eq,
    (own.grows.trans display.grows).trans binary.grows, binary.distinct⟩
  simp [arrayNames?, own.text?_eq, hcode]

theorem component?_eq (h : e.Reads p d) : e.component? = d.component? := by
  cases h <;> rfl

theorem isArray_eq (h : e.Reads p d) : e.isArray = d.isArray := by
  cases h <;> rfl

theorem isPrimitive_eq (h : e.Reads p d) : e.isPrimitive = d.isPrimitive := by
  cases h <;> rfl

theorem isReferenceTyped_eq (h : e.Reads p d) : e.isReferenceTyped = d.isReferenceTyped := by
  cases h <;> rfl

theorem scalarDefault_eq (h : e.Reads p d) : e.scalarDefault = Registry.scalarDefault d := by
  cases h <;> rfl

end Entry.Reads

/-! ### Stores -/

/-- The store is the registry once its symbols are read in the pool. -/
structure Store.Reads (p : NamePool) (s : Store) (r : Registry) : Prop where
  id_eq : s.id = r.id
  entries : List.Forall₂ (Entry.Reads p) s.entries.toList r.entries.toList
  arrays_eq : s.arrays = r.arrays
  references : List.Forall₂ (fun a b => p.text? a.1 = some b.1 ∧ a.2 = b.2) s.references
    r.references

namespace Store.Reads

theorem grow (hg : p.Grows q) (hr : s.Reads p r) : s.Reads q r where
  id_eq := hr.id_eq
  entries := hr.entries.imp fun _ _ => Entry.Reads.grow hg
  arrays_eq := hr.arrays_eq
  references := hr.references.imp fun _ _ h => ⟨hg _ _ h.1, h.2⟩

theorem size_eq (hr : s.Reads p r) : s.entries.size = r.entries.size :=
  hr.entries.length_eq

theorem next_eq (hr : s.Reads p r) : s.next = r.next := by
  rw [next, hr.id_eq, hr.size_eq, Registry.next]

theorem entries_push (hr : s.Reads p r) (he : e.Reads p d) :
    List.Forall₂ (Entry.Reads p) (s.entries.push e).toList (r.entries.push d).toList := by
  rw [Array.toList_push, Array.toList_push]
  exact List.rel_append hr.entries (.cons he .nil)

theorem optionRel_getElem? (hr : s.Reads p r) (i : Nat) :
    Option.Rel (Entry.Reads p) s.entries[i]? r.entries[i]? := by
  rw [← Array.getElem?_toList, ← Array.getElem?_toList]
  exact ArrayTypes.optionRel_getElem? hr.entries i

/-- A look meets the same failure, or an entry for the descriptor. -/
theorem get_cases (hr : s.Reads p r) (h : Handle) :
    (∃ f, s.get h = .error f ∧ r.get h = .error f) ∨
      ∃ e d, s.get h = .ok e ∧ r.get h = .ok d ∧ e.Reads p d := by
  unfold Store.get Registry.get Registry.find?
  have hslot := hr.optionRel_getElem? h.slot
  rw [hr.id_eq]
  by_cases ho : h.owner = r.id
  · rw [if_pos ho, if_pos ho]
    generalize s.entries[h.slot]? = x, r.entries[h.slot]? = y at hslot
    cases hslot with
    | some he => exact .inr ⟨_, _, rfl, rfl, he⟩
    | none => exact .inl ⟨_, rfl, rfl⟩
  · rw [if_neg ho, if_neg ho]
    exact .inl ⟨_, rfl, rfl⟩

/-- The memo finds by symbol what is found by text, as no two texts have one symbol and no two
symbols one text. -/
theorem lookup_eq (hp : p.Distinct) (hr : s.Reads p r) {symbol : Symbol} {name : String}
    (hn : p.text? symbol = some name) :
    s.references.lookup symbol = r.lookup? (.reference name) := by
  rw [Registry.lookup?]
  have hrefs := hr.references
  generalize s.references = symbols, r.references = names at hrefs
  induction hrefs with
  | nil => rfl
  | @cons a b as bs hab _ ih =>
    obtain ⟨x, h⟩ := a
    obtain ⟨y, g⟩ := b
    obtain ⟨hxy, rfl⟩ := hab
    have hkey : (symbol == x) = (name == y) := by
      rw [Bool.eq_iff_iff, beq_iff_eq, beq_iff_eq]
      constructor
      · rintro rfl
        exact Option.some.inj (hn.symm.trans hxy)
      · rintro rfl
        exact hp.eq_of_text? hn hxy
    rw [List.lookup_cons, List.lookup_cons, hkey, ih]

/-! ### Additions -/

theorem addReference (hr : s.Reads p r) {symbol : Symbol} {name : String}
    (hn : p.text? symbol = some name) : (s.addReference symbol).Reads p (r.addReference name) where
  id_eq := hr.id_eq
  entries := hr.entries_push (.reference hn)
  arrays_eq := hr.arrays_eq
  references := .cons ⟨hn, hr.next_eq⟩ hr.references

theorem addArray (hr : s.Reads p r) {c : Handle} {display binary : Symbol}
    (he : s.get c = .ok e) (hd : r.get c = .ok d)
    (hdisplay : p.text? display = some (d.name ++ "[]"))
    (hbinary : p.text? binary = some ("[" ++ d.elementCode)) :
    (s.addArray c display binary he).Reads p (r.addArray c d hd) where
  id_eq := hr.id_eq
  entries := hr.entries_push (.array hdisplay hbinary)
  arrays_eq := by rw [Store.addArray, Registry.addArray, hr.arrays_eq, hr.next_eq]
  references := hr.references

theorem bare (p : NamePool) (id : Nat) : (Store.bare id).Reads p (Registry.bare id) where
  id_eq := rfl
  entries := by
    simp only [Store.bare, Registry.bare, List.forall₂_map_left_iff, List.forall₂_map_right_iff,
      List.forall₂_same]
    exact fun kind _ => .primitive kind
  arrays_eq := rfl
  references := .nil

/-! ### What needs no names -/

theorem exists_get_of_get (hr : s.Reads p r) {h : Handle} (he : s.get h = .ok e) :
    ∃ d, r.get h = .ok d ∧ e.Reads p d := by
  rcases hr.get_cases h with ⟨f, hf, -⟩ | ⟨e', d, he', hd, hed⟩
  · cases he.symm.trans hf
  · cases he.symm.trans he'
    exact ⟨d, hd, hed⟩

theorem get_eq_error_of_get (hr : s.Reads p r) {h : Handle} {f : Failure}
    (hf : s.get h = .error f) : r.get h = .error f := by
  rcases hr.get_cases h with ⟨f', hf', hr'⟩ | ⟨e, d, he, -, -⟩
  · cases hf.symm.trans hf'
    exact hr'
  · cases hf.symm.trans he

theorem exists_get_array (hr : s.Reads p r) {h c : Handle} {display binary : Symbol}
    (he : s.get h = .ok (.array c display binary)) :
    ∃ name binaryName, r.get h = .ok (.array c name binaryName) := by
  obtain ⟨d, hd, hed⟩ := hr.exists_get_of_get he
  cases hed
  exact ⟨_, _, hd⟩

theorem exists_get_reference (hr : s.Reads p r) {h : Handle} {symbol : Symbol}
    (he : s.get h = .ok (.reference symbol)) :
    ∃ name, p.text? symbol = some name ∧ r.get h = .ok (.reference name) := by
  obtain ⟨d, hd, hed⟩ := hr.exists_get_of_get he
  cases hed with
  | reference hn => exact ⟨_, hn, hd⟩

/-- The two chains of components are one. -/
theorem unwrap_eq (hr : s.Reads p r) (h : Handle) : s.unwrap h = r.unwrap h := by
  fun_induction Store.unwrap s h with
  | case1 h f hf => exact (Registry.unwrap_of_get_eq_error (hr.get_eq_error_of_get hf)).symm
  | case2 h e he hc =>
    obtain ⟨d, hd, hed⟩ := hr.exists_get_of_get he
    exact (Registry.unwrap_bottom hd (hed.component?_eq ▸ hc)).symm
  | case3 h e he c hc b n hu ih | case4 h e he c hc f hu ih =>
    obtain ⟨d, hd, hed⟩ := hr.exists_get_of_get he
    rw [Registry.unwrap_component hd (hed.component?_eq ▸ hc), ← ih, hu]
    rfl

/-- Of two arrays in the store the registry goes on to the same components. -/
theorem judge_components (hr : s.Reads p r) {source target c c' : Handle}
    {display binary display' binary' : Symbol} (hne : source ≠ target)
    (he : s.get source = .ok (.array c display binary))
    (he' : s.get target = .ok (.array c' display' binary')) :
    r.judge source target =
      (do let d ← r.get c
          let d' ← r.get c'
          if d.isReferenceTyped && d'.isReferenceTyped then r.judge c c'
          else .ok (.known (c = c'))) := by
  obtain ⟨_, _, hd⟩ := hr.exists_get_array he
  obtain ⟨_, _, hd'⟩ := hr.exists_get_array he'
  exact Registry.judge_components hne hd hd'

/-- The check asks the same question, since the pool has the texts of the names that it asks
about. -/
theorem judge_eq (hr : s.Reads p r) (source target : Handle) :
    s.judge p source target = some (r.judge source target) := by
  -- by the cases of the check on the store, which takes the steps that the registry takes
  fun_induction Store.judge s p source target with
  | case1 target => rw [r.judge_self]
  | case2 source target hne f hf =>
    rw [Registry.judge_of_get_source_eq_error hne (hr.get_eq_error_of_get hf)]
  | case3 source target hne e f he hf =>
    obtain ⟨d, hd, -⟩ := hr.exists_get_of_get he
    rw [Registry.judge_of_get_target_eq_error hne hd (hr.get_eq_error_of_get hf)]
  | case4 source target hne c _ _ c' _ _ he he' f hf =>
    rw [hr.judge_components hne he he', hr.get_eq_error_of_get hf]
    rfl
  | case5 source target hne c _ _ c' _ _ he he' e f hf heb =>
    obtain ⟨b, hb, -⟩ := hr.exists_get_of_get heb
    rw [hr.judge_components hne he he', hb, hr.get_eq_error_of_get hf]
    rfl
  | case6 source target hne c _ _ c' _ _ he he' e e' heb' heb href ih =>
    obtain ⟨b, hb, hbelow⟩ := hr.exists_get_of_get heb
    obtain ⟨b', hb', hbelow'⟩ := hr.exists_get_of_get heb'
    rw [hbelow.isReferenceTyped_eq, hbelow'.isReferenceTyped_eq] at href
    rw [hr.judge_components hne he he', hb, hb', ih]
    exact congrArg some (if_pos href).symm
  | case7 source target hne c _ _ c' _ _ he he' e e' heb' heb href =>
    obtain ⟨b, hb, hbelow⟩ := hr.exists_get_of_get heb
    obtain ⟨b', hb', hbelow'⟩ := hr.exists_get_of_get heb'
    rw [hbelow.isReferenceTyped_eq, hbelow'.isReferenceTyped_eq] at href
    rw [hr.judge_components hne he he', hb, hb']
    exact congrArg some (if_neg href).symm
  | case8 source target hne sub super he he' =>
    obtain ⟨_, hsub, hd⟩ := hr.exists_get_reference he
    obtain ⟨_, hsuper, hd'⟩ := hr.exists_get_reference he'
    rw [Registry.judge_of_references hne hd hd', hsub, hsuper]
    rfl
  | case9 source target hne c _ _ super he he' =>
    obtain ⟨_, _, hd⟩ := hr.exists_get_array he
    obtain ⟨_, hsuper, hd'⟩ := hr.exists_get_reference he'
    rw [Registry.judge_of_array_reference hne hd hd', hsuper]
    rfl
  | case10 source target hne e e' harrays hrefs hsuper he he' =>
    obtain ⟨d, hd, hed⟩ := hr.exists_get_of_get he
    obtain ⟨d', hd', hed'⟩ := hr.exists_get_of_get he'
    rw [Registry.judge_of_mismatch hne hd hd']
    rw [← hed.isPrimitive_eq, ← hed'.isPrimitive_eq, ← hed.isArray_eq, ← hed'.isArray_eq]
    cases e <;> cases e' <;> grind [Entry.isPrimitive, Entry.isArray]

end Store.Reads

end ArrayTypes.Interned
