import ArrayTypes.Proofs.KindTable.Entries

/-! Which declarations have a table, and who is blamed if there is none. A table is derived from
an enumeration whose variants hold no fields and carry a full list of entries in their first table
attribute. In any other enumeration the first variant that does not is blamed: for its fields, or
else for having no table attribute, or else for what is wrong with the first of them. -/

namespace ArrayTypes.KindTable

/-- What is wrong with a table attribute. -/
inductive Attribute.Faulty : Attribute → AttributeError → Prop
  | bare : Faulty .bare .expectedArguments
  | assigned : Faulty .assigned .expectedParentheses
  | entries {list : EntryList} {cause : AttributeError} (h : list.Faulty cause) :
    Faulty (.entries list) cause

namespace Variant

/-- The first table attribute of the variant. -/
def FirstTable (v : Variant) (found : Attribute) : Prop :=
  ∃ before after, v.attributes = before ++ found :: after ∧
    (∀ other ∈ before, other = .unrelated) ∧ found ≠ .unrelated

/-- The variant holds no fields and its entries fill the row. -/
def Carries (v : Variant) (row : Row) : Prop :=
  row.variant = v.ident ∧ v.shape = .unit ∧ ∃ list, v.FirstTable (.entries list) ∧ list.Fills row

/-- The variant holds no fields. Its first table attribute is a list that can be read, in which
every entry sets something and no key is missing. -/
def WellFormed (v : Variant) : Prop :=
  v.shape = .unit ∧ ∃ list, v.FirstTable (.entries list) ∧ list.fault? = none ∧
    (∀ e ∈ list.entries, e.Valid) ∧ ∀ kind : LiteralKind, ∃ e ∈ list.entries, e.key = kind.key

/-- What a variant is blamed for. -/
inductive Blamed (v : Variant) : TableError → Prop
  | hasFields (hv : v.shape ≠ .unit) : Blamed v (.hasFields v.ident)
  | missingAttribute (hv : v.shape = .unit) (ha : ∀ a ∈ v.attributes, a = .unrelated) :
    Blamed v (.missingAttribute v.ident)
  | invalidAttribute {found : Attribute} {cause : AttributeError} (hv : v.shape = .unit)
    (hfound : v.FirstTable found) (hcause : found.Faulty cause) :
    Blamed v (.invalidAttribute v.ident cause)

end Variant

/-! ### One attribute -/

theorem Attribute.isRelated_eq_false_iff {a : Attribute} : a.isRelated = false ↔ a = .unrelated := by
  cases a <;> simp [isRelated]

theorem Attribute.isRelated_iff {a : Attribute} : a.isRelated = true ↔ a ≠ .unrelated := by
  cases a <;> simp [isRelated]

variable {variant : String} {row : Row} {cause : AttributeError} {v : Variant}
  {found : Attribute} {err : TableError}

theorem readAttribute_eq_ok_iff :
    readAttribute variant found = .ok row ↔
      row.variant = variant ∧ ∃ list, found = .entries list ∧ list.Fills row := by
  cases found <;> simp [readAttribute, readEntries_eq_ok_iff]

theorem readAttribute_eq_error_iff (h : found ≠ .unrelated) :
    readAttribute variant found = .error cause ↔ found.Faulty cause := by
  constructor
  · intro hc
    cases found with
    | entries list => exact .entries (readEntries_eq_error_iff.1 hc)
    | bare =>
      cases hc
      exact .bare
    | assigned =>
      cases hc
      exact .assigned
    | unrelated => exact absurd rfl h
  · intro hc
    cases hc with
    | bare | assigned => rfl
    | entries hlist => exact readEntries_eq_error_iff.2 hlist

/-! ### One variant -/

theorem find?_isRelated_eq_some_iff :
    v.attributes.find? Attribute.isRelated = some found ↔ v.FirstTable found := by
  rw [List.find?_eq_some_iff_append, Variant.FirstTable]
  simp only [Attribute.isRelated_iff, Bool.not_eq_true', Attribute.isRelated_eq_false_iff]
  constructor
  · rintro ⟨hfound, before, after, hv, hbefore⟩
    exact ⟨before, after, hv, hbefore, hfound⟩
  · rintro ⟨before, after, hv, hbefore, hfound⟩
    exact ⟨hfound, before, after, hv, hbefore⟩

theorem find?_isRelated_eq_none_iff :
    v.attributes.find? Attribute.isRelated = none ↔ ∀ a ∈ v.attributes, a = .unrelated := by
  simp only [List.find?_eq_none, Bool.not_eq_true, Attribute.isRelated_eq_false_iff]

theorem Variant.FirstTable.ne_unrelated (h : v.FirstTable found) : found ≠ .unrelated := by
  obtain ⟨-, -, -, -, hne⟩ := h
  exact hne

theorem readVariant_of_firstTable (hv : v.shape = .unit) (hfound : v.FirstTable found) :
    readVariant v = (readAttribute v.ident found).mapError (.invalidAttribute v.ident) := by
  rw [readVariant, if_neg (not_not_intro hv), find?_isRelated_eq_some_iff.2 hfound]
  cases hread : readAttribute v.ident found <;> simp only [hread, Except.mapError]

theorem readVariant_eq_ok_iff : readVariant v = .ok row ↔ v.Carries row := by
  constructor
  · intro h
    unfold readVariant at h
    split at h
    · cases h
    next hv =>
      split at h
      · cases h
      next found hfound =>
        split at h
        next hrow =>
          cases h
          obtain ⟨hident, list, rfl, hlist⟩ := readAttribute_eq_ok_iff.1 hrow
          exact ⟨hident, not_not.1 hv, list, find?_isRelated_eq_some_iff.1 hfound, hlist⟩
        · cases h
  · rintro ⟨hident, hv, list, hfound, hlist⟩
    rw [readVariant_of_firstTable hv hfound, readAttribute_eq_ok_iff.2 ⟨hident, list, rfl, hlist⟩]
    rfl

theorem readVariant_eq_error_iff : readVariant v = .error err ↔ v.Blamed err := by
  constructor
  · intro h
    unfold readVariant at h
    split at h
    next hv =>
      cases h
      exact .hasFields hv
    next hv =>
      have hunit : v.shape = .unit := not_not.1 hv
      split at h
      next hnone =>
        cases h
        exact .missingAttribute hunit (find?_isRelated_eq_none_iff.1 hnone)
      next found hfound =>
        split at h
        · cases h
        next cause hcause =>
          cases h
          have hfirst := find?_isRelated_eq_some_iff.1 hfound
          exact .invalidAttribute hunit hfirst
            ((readAttribute_eq_error_iff hfirst.ne_unrelated).1 hcause)
  · intro h
    cases h with
    | hasFields hv => rw [readVariant, if_pos hv]
    | missingAttribute hv ha =>
      rw [readVariant, if_neg (not_not_intro hv), find?_isRelated_eq_none_iff.2 ha]
    | invalidAttribute hv hfound hcause =>
      rw [readVariant_of_firstTable hv hfound,
        (readAttribute_eq_error_iff hfound.ne_unrelated).2 hcause]
      rfl

theorem Variant.exists_carries_iff : (∃ row, v.Carries row) ↔ v.WellFormed := by
  constructor
  · rintro ⟨row, hident, hv, list, hfound, hlist⟩
    exact ⟨hv, list, hfound, (EntryList.exists_fills_iff v.ident).1 ⟨row, hident, hlist⟩⟩
  · rintro ⟨hv, list, hfound, hlist⟩
    obtain ⟨row, hident, hrow⟩ := (EntryList.exists_fills_iff v.ident).2 hlist
    exact ⟨row, hident, hv, list, hfound, hrow⟩

/-! ### All variants -/

theorem derive_eq_ok_iff {variants : List Variant} {table : List Row} :
    derive (.enumeration variants) = .ok table ↔ List.Forall₂ Variant.Carries variants table := by
  rw [derive, mapM_eq_ok_iff]
  simp only [readVariant_eq_ok_iff]

theorem exists_derive_eq_ok_iff {variants : List Variant} :
    (∃ table, derive (.enumeration variants) = .ok table) ↔ ∀ v ∈ variants, v.WellFormed := by
  simp only [derive, exists_mapM_eq_ok_iff, readVariant_eq_ok_iff, Variant.exists_carries_iff]

theorem derive_eq_error_iff {variants : List Variant} :
    derive (.enumeration variants) = .error err ↔
      ∃ before v after, variants = before ++ v :: after ∧ (∀ u ∈ before, u.WellFormed) ∧
        v.Blamed err := by
  rw [derive, mapM_eq_error_iff]
  simp only [readVariant_eq_ok_iff, readVariant_eq_error_iff, Variant.exists_carries_iff]

/-- A table has one row for each variant of an enumeration, and it is derived just if every
variant is well formed. Otherwise nothing is derived, and of an enumeration the first variant
that is not well formed is blamed. -/
theorem derive_blames_first_variant (item : Item) :
    (∀ table, derive item = .ok table ↔
      ∃ variants, item = .enumeration variants ∧ List.Forall₂ Variant.Carries variants table) ∧
    ((∃ table, derive item = .ok table) ↔
      ∃ variants, item = .enumeration variants ∧ ∀ v ∈ variants, v.WellFormed) ∧
    ∀ err, derive item = .error err ↔
      (err = .notAnEnumeration ∧ ∀ variants, item ≠ .enumeration variants) ∨
        ∃ before v after, item = .enumeration (before ++ v :: after) ∧
          (∀ u ∈ before, u.WellFormed) ∧ v.Blamed err := by
  cases item with
  | enumeration variants =>
    refine ⟨fun table => ?_, ?_, fun err => ?_⟩
    · rw [derive_eq_ok_iff]
      simp
    · rw [exists_derive_eq_ok_iff]
      simp
    · rw [derive_eq_error_iff]
      simp
  | structured | union => simp [derive, eq_comm]

end ArrayTypes.KindTable
