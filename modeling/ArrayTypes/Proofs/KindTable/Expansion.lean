import ArrayTypes.KindTable.Expansion
import ArrayTypes.Proofs.KindTable.Acceptance
import ArrayTypes.Proofs.Related
import Mathlib.Data.List.Nodup

/-! What is written out for a table says what the table says. The columns keep in step, so each
variant is paired with its own name, code and width as long as no two variants are called the
same. Names may agree: then the first variant of the name is found and hides the others. -/

namespace ArrayTypes.KindTable

/-! ### The columns of a table -/

def Columns.ofTable (table : List Row) : Columns :=
  ⟨table.map Row.variant, table.map Row.name, table.map Row.code, table.map Row.width⟩

theorem Columns.push_ofTable (table : List Row) (row : Row) :
    (ofTable table).push row = ofTable (table ++ [row]) := by
  simp [ofTable, push]

/-- The rows of the variants are added to the columns in their order. -/
theorem Columns.collect_ofTable (table : List Row) (variants : List Variant) :
    (ofTable table).collect variants =
      (fun rows => ofTable (table ++ rows)) <$> variants.mapM readVariant := by
  induction variants generalizing table with
  | nil =>
    rw [collect, List.mapM_nil]
    exact congrArg (Except.ok ∘ ofTable) (List.append_nil table).symm
  | cons v variants ih =>
    rw [collect, List.mapM_cons]
    cases readVariant v with
    | error e => rfl
    | ok row =>
      simp only [push_ofTable, ih]
      cases variants.mapM readVariant with
      | error e => rfl
      | ok rows => exact congrArg (Except.ok ∘ ofTable) (List.append_assoc table [row] rows)

/-- What is written out for a table. -/
def Expansion.ofTable (table : List Row) : Expansion :=
  (Columns.ofTable table).expand

theorem expand_eq (item : Item) : expand item = Expansion.ofTable <$> derive item := by
  cases item with
  | enumeration variants =>
    have h : Columns.empty.collect variants = Columns.ofTable <$> variants.mapM readVariant :=
      Columns.collect_ofTable [] variants
    rw [expand, derive, h]
    cases variants.mapM readVariant <;> rfl
  | structured | union => rfl

/-! ### The functions -/

theorem lookup_zip_map {α β : Type} (entries : List α) (key : α → String) (value : α → β)
    (s : String) :
    ((entries.map key).zip (entries.map value)).lookup s =
      (entries.find? (key · = s)).map value := by
  induction entries with
  | nil => rfl
  | cons a entries ih =>
    by_cases h : key a = s
    · subst h
      simp
    · simp [List.lookup_cons, ih, h, beq_eq_false_iff_ne.2 (Ne.symm h)]

namespace Expansion

variable {table : List Row} {row : Row} {s variant : String}

theorem ofName?_ofTable (table : List Row) (s : String) :
    (ofTable table).ofName? s = (table.find? (·.name = s)).map Row.variant :=
  lookup_zip_map table Row.name Row.variant s

theorem find?_variant_eq (hn : (table.map Row.variant).Nodup) (hrow : row ∈ table) :
    table.find? (·.variant = row.variant) = some row := by
  cases hfind : table.find? (·.variant = row.variant) with
  | none => simpa using List.find?_eq_none.1 hfind row hrow
  | some other =>
    have hv : other.variant = row.variant := by simpa using List.find?_some hfind
    exact congrArg some (List.inj_on_of_nodup_map hn (List.mem_of_find?_eq_some hfind) hrow hv)

/-- Each variant is paired with the values of its own row. -/
theorem values_ofTable (hn : (table.map Row.variant).Nodup) (hrow : row ∈ table) :
    (ofTable table).name? row.variant = some row.name ∧
      (ofTable table).code? row.variant = some row.code ∧
      (ofTable table).width? row.variant = some row.width := by
  have hname := lookup_zip_map table Row.variant Row.name row.variant
  have hcode := lookup_zip_map table Row.variant Row.code row.variant
  have hwidth := lookup_zip_map table Row.variant Row.width row.variant
  rw [find?_variant_eq hn hrow] at hname hcode hwidth
  exact ⟨hname, hcode, hwidth⟩

theorem getElem?_all_eq_some_iff {i : Nat} :
    (ofTable table).all[i]? = some variant ↔ ∃ row, table[i]? = some row ∧ row.variant = variant := by
  change (table.map Row.variant)[i]? = some variant ↔ _
  rw [List.getElem?_map, Option.map_eq_some_iff]

/-- The first variant of a name is found. -/
theorem ofName?_eq_some_iff (hn : (table.map Row.variant).Nodup) :
    (ofTable table).ofName? s = some variant ↔
      ∃ j : Nat, (ofTable table).all[j]? = some variant ∧ (ofTable table).name? variant = some s ∧
        ∀ i < j, ∀ other, (ofTable table).all[i]? = some other →
          (ofTable table).name? other ≠ some s := by
  have name_eq {row : Row} (hrow : row ∈ table) :
      (ofTable table).name? row.variant = some row.name := (values_ofTable hn hrow).1
  simp only [ofName?_ofTable, Option.map_eq_some_iff, List.find?_eq_some_iff_getElem,
    getElem?_all_eq_some_iff, decide_eq_true_eq, Bool.not_eq_true', decide_eq_false_iff_not]
  constructor
  · rintro ⟨row, ⟨rfl, j, hj, rfl, hbefore⟩, rfl⟩
    refine ⟨j, ⟨table[j], List.getElem?_eq_getElem hj, rfl⟩, name_eq (List.getElem_mem hj), ?_⟩
    rintro i hij - ⟨row, hi, rfl⟩ hs
    obtain ⟨hlt, rfl⟩ := List.getElem?_eq_some_iff.1 hi
    rw [name_eq (List.getElem_mem hlt), Option.some_inj] at hs
    exact hbefore i hij hs
  · rintro ⟨j, ⟨row, hrow, rfl⟩, hs, hbefore⟩
    obtain ⟨hj, rfl⟩ := List.getElem?_eq_some_iff.1 hrow
    rw [name_eq (List.getElem_mem hj), Option.some_inj] at hs
    refine ⟨table[j], ⟨hs, j, hj, rfl, fun i hij hi => ?_⟩, rfl⟩
    have hlt : i < table.length := Nat.lt_trans hij hj
    exact hbefore i hij _ ⟨table[i], List.getElem?_eq_getElem hlt, rfl⟩
      ((name_eq (List.getElem_mem hlt)).trans (congrArg some hi))

theorem ofName?_eq_none_iff (hn : (table.map Row.variant).Nodup) :
    (ofTable table).ofName? s = none ↔
      ∀ variant ∈ (ofTable table).all, (ofTable table).name? variant ≠ some s := by
  change _ ↔ ∀ variant ∈ table.map Row.variant, _
  rw [ofName?_ofTable, Option.map_eq_none_iff, List.find?_eq_none, List.forall_mem_map]
  refine forall₂_congr fun row hrow => ?_
  rw [(values_ofTable hn hrow).1, Ne, Option.some_inj, decide_eq_true_eq]

/-- The place of a name in the table is the place of its variant in the list. -/
theorem ofName?_eq_bind (table : List Row) (s : String) :
    (ofTable table).ofName? s = (KindTable.ofName? table s).bind ((ofTable table).all[·]?) := by
  rw [ofName?_ofTable, KindTable.ofName?, List.find?_eq_bind_findIdx?_getElem?]
  change _ = Option.bind _ ((table.map Row.variant)[·]?)
  cases table.findIdx? (·.name = s) with
  | none => rfl
  | some i => exact List.getElem?_map.symm

theorem name?_of_ofName? (hn : (table.map Row.variant).Nodup)
    (h : (ofTable table).ofName? s = some variant) :
    variant ∈ (ofTable table).all ∧ (ofTable table).name? variant = some s := by
  obtain ⟨j, hj, hs, -⟩ := (ofName?_eq_some_iff hn).1 h
  exact ⟨List.mem_of_getElem? hj, hs⟩

theorem exists_name?_eq (hn : (table.map Row.variant).Nodup) (h : variant ∈ (ofTable table).all) :
    ∃ s, (ofTable table).name? variant = some s := by
  obtain ⟨row, hrow, rfl⟩ := List.mem_map.1 h
  exact ⟨row.name, (values_ofTable hn hrow).1⟩

/-- Every variant is found by its name just if no two have the same one. -/
theorem forall_ofName?_eq_iff (hn : (table.map Row.variant).Nodup) :
    (∀ variant ∈ (ofTable table).all,
      ((ofTable table).name? variant).bind (ofTable table).ofName? = some variant) ↔
      ((ofTable table).all.map (ofTable table).name?).Nodup := by
  constructor
  · intro h
    refine List.Nodup.map_on (fun v hv w hw hvw => Option.some_inj.1 ?_) hn
    rw [← h v hv, hvw, h w hw]
  · intro h v hv
    -- its name finds some variant of that name, and no other has it
    obtain ⟨s, hs⟩ := exists_name?_eq hn hv
    rw [hs, Option.bind_some]
    cases hfind : (ofTable table).ofName? s with
    | none => exact absurd hs ((ofName?_eq_none_iff hn).1 hfind v hv)
    | some w =>
      obtain ⟨hw, hsw⟩ := name?_of_ofName? hn hfind
      exact congrArg some (List.inj_on_of_nodup_map h hw hv (hsw.trans hs.symm))

end Expansion

/-! ### A declaration -/

variable {variants : List Variant} {table : List Row}

theorem map_variant_eq (h : List.Forall₂ Variant.Carries variants table) :
    table.map Row.variant = variants.map Variant.ident := by
  induction h with
  | nil => rfl
  | cons hrow _ ih => rw [List.map_cons, List.map_cons, hrow.1, ih]

theorem exists_row (h : List.Forall₂ Variant.Carries variants table) {v : Variant}
    (hv : v ∈ variants) : ∃ row ∈ table, v.Carries row := by
  obtain ⟨i, hi⟩ := List.mem_iff_getElem?.1 hv
  obtain ⟨row, hrow, hcarries⟩ := exists_of_optionRel_some (hi ▸ optionRel_getElem? h i)
  exact ⟨row, List.mem_of_getElem? hrow, hcarries⟩

/-- What is written out for an enumeration that has a table. Its variants are listed in their
order, and each is paired with the name, the code and the width that it carries. The first variant
of a name is found by it, so all are found just if their names are distinct. -/
theorem expansion_is_consistent (h : derive (.enumeration variants) = .ok table)
    (hn : (variants.map Variant.ident).Nodup) :
    ∃ x, expand (.enumeration variants) = .ok x ∧ x.all = variants.map Variant.ident ∧
      x.count = x.all.length ∧
      (∀ v ∈ variants, ∃ row, v.Carries row ∧ x.name? v.ident = some row.name ∧
        x.code? v.ident = some row.code ∧ x.width? v.ident = some row.width) ∧
      (∀ s variant, x.ofName? s = some variant ↔
        ∃ j : Nat, x.all[j]? = some variant ∧ x.name? variant = some s ∧
          ∀ i < j, ∀ other, x.all[i]? = some other → x.name? other ≠ some s) ∧
      (∀ s, x.ofName? s = none ↔ ∀ variant ∈ x.all, x.name? variant ≠ some s) ∧
      (∀ s, x.ofName? s = (ofName? table s).bind (x.all[·]?)) ∧
      (∀ s variant, x.ofName? s = some variant → x.name? variant = some s) ∧
      ((∀ variant ∈ x.all, (x.name? variant).bind x.ofName? = some variant) ↔
        (x.all.map x.name?).Nodup) := by
  have hrows : List.Forall₂ Variant.Carries variants table := derive_eq_ok_iff.1 h
  have hvariants : table.map Row.variant = variants.map Variant.ident := map_variant_eq hrows
  rw [← hvariants] at hn
  refine ⟨Expansion.ofTable table, by rw [expand_eq, h]; rfl, hvariants, rfl, fun v hv => ?_,
    fun s variant => Expansion.ofName?_eq_some_iff hn, fun s => Expansion.ofName?_eq_none_iff hn,
    Expansion.ofName?_eq_bind table, fun s variant hs => (Expansion.name?_of_ofName? hn hs).2,
    Expansion.forall_ofName?_eq_iff hn⟩
  obtain ⟨row, hrow, hcarries⟩ := exists_row hrows hv
  exact ⟨row, hcarries, hcarries.1 ▸ Expansion.values_ofTable hn hrow⟩

/-- A unit variant with a table attribute that sets its name, its code and then its width. -/
def Variant.ofValues (ident name : String) (code : Char) (width : Nat) : Variant :=
  ⟨ident, .unit, [.entries ⟨[⟨⟨false, ["name"]⟩, .literal (.string name)⟩,
    ⟨⟨false, ["code"]⟩, .literal (.character code)⟩,
    ⟨⟨false, ["width"]⟩, .literal (.integer false width)⟩], none⟩]⟩

/-- Two variants of one name: the second is hidden by the first. -/
theorem second_of_a_name_is_hidden :
    let variants : List Variant := [.ofValues "Int" "int" 'I' 4, .ofValues "Word" "int" 'W' 2]
    derive (.enumeration variants) = .ok [⟨"Int", "int", 'I', 4⟩, ⟨"Word", "int", 'W', 2⟩] ∧
    (variants.map Variant.ident).Nodup ∧
    ∃ x, expand (.enumeration variants) = .ok x ∧ x.width? "Word" = some 2 ∧
      x.ofName? "int" = some "Int" ∧ x.ofName? "Int" = none ∧
      ¬ ∀ variant ∈ x.all, (x.name? variant).bind x.ofName? = some variant := by
  intro variants
  have htable : derive (.enumeration variants) =
      .ok [⟨"Int", "int", 'I', 4⟩, ⟨"Word", "int", 'W', 2⟩] := rfl
  have hn : (variants.map Variant.ident).Nodup := by decide
  obtain ⟨x, hx, -, -, -, hfound, hnone, -, -, hround⟩ := expansion_is_consistent htable hn
  obtain rfl := Except.ok.inj hx
  exact ⟨htable, hn, _, rfl, rfl, (hfound "int" "Int").2 ⟨0, rfl, rfl, by simp⟩,
    (hnone "Int").2 (by decide), mt hround.1 (by decide)⟩

end ArrayTypes.KindTable
