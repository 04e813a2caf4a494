import ArrayTypes.KindTable.Derive
import ArrayTypes.Proofs.FirstError

/-! The entries of a table attribute. An entry has one of three keys and a literal of the kind
that its key asks for, or else something is wrong with it. A list of entries comes to a row if
each of them sets something, none of the keys is missing and the list can be read to its end; of
the entries of one key the last counts. Otherwise the first entry with a fault is blamed, then
what ends the list, and then a missing key. -/

namespace ArrayTypes.KindTable

/-- The key whose entries are given literals of the kind. -/
def LiteralKind.key : LiteralKind → Path
  | string => ⟨false, ["name"]⟩
  | character => ⟨false, ["code"]⟩
  | integer => ⟨false, ["width"]⟩

/-- The kind of a literal; none for any other token. -/
def Literal.kind? : Literal → Option LiteralKind
  | string _ => some .string
  | character _ => some .character
  | integer _ _ => some .integer
  | other => none

/-- What an entry sets. -/
inductive Setting where
  | name (value : String)
  | code (value : Char)
  | width (value : UInt8)

def Setting.kind : Setting → LiteralKind
  | name _ => .string
  | code _ => .character
  | width _ => .integer

/-- The entry is a key and its value. A width has no sign and fits in a byte. -/
inductive Entry.Sets : Entry → Setting → Prop
  | name (s : String) : Sets ⟨LiteralKind.string.key, .literal (.string s)⟩ (.name s)
  | code (c : Char) : Sets ⟨LiteralKind.character.key, .literal (.character c)⟩ (.code c)
  | width {n : Nat} (hn : n < 256) :
    Sets ⟨LiteralKind.integer.key, .literal (.integer false n)⟩ (.width n.toUInt8)

/-- What is wrong with an entry that sets nothing. -/
inductive Entry.Wrong : Entry → AttributeError → Prop
  | unknownKey {e : Entry} (he : ∀ kind : LiteralKind, e.key ≠ kind.key) : Wrong e .unknownKey
  | noEquals (kind : LiteralKind) : Wrong ⟨kind.key, .missing⟩ .expectedEquals
  | noLiteral (kind : LiteralKind) : Wrong ⟨kind.key, .unfinished⟩ (.expectedLiteral kind true)
  | otherLiteral {kind : LiteralKind} {value : Literal} (hv : value.kind? ≠ some kind) :
    Wrong ⟨kind.key, .literal value⟩ (.expectedLiteral kind false)
  | negative (n : Nat) :
    Wrong ⟨LiteralKind.integer.key, .literal (.integer true n)⟩ .widthNegative
  | tooLarge {n : Nat} (hn : 256 ≤ n) :
    Wrong ⟨LiteralKind.integer.key, .literal (.integer false n)⟩ .widthTooLarge

/-- The entry sets something. -/
def Entry.Valid (e : Entry) : Prop :=
  ∃ σ, e.Sets σ

/-- The last entry of its key sets this. -/
def Settles (entries : List Entry) (σ : Setting) : Prop :=
  ∃ before e after, entries = before ++ e :: after ∧ e.Sets σ ∧ ∀ e' ∈ after, e'.key ≠ e.key

/-- The list can be read to its end and comes to the row. -/
structure EntryList.Fills (list : EntryList) (row : Row) : Prop where
  fault?_eq : list.fault? = none
  valid : ∀ e ∈ list.entries, e.Valid
  name : Settles list.entries (.name row.name)
  code : Settles list.entries (.code row.code)
  width : Settles list.entries (.width row.width)

/-- What is wrong with a list that fills no row: the first entry that sets nothing, or else what
keeps the list from being read on, or else a missing key. -/
inductive EntryList.Faulty : EntryList → AttributeError → Prop
  | entry {before after : List Entry} {e : Entry} {fault? : Option Fault} {cause : AttributeError}
    (hbefore : ∀ e' ∈ before, e'.Valid) (he : e.Wrong cause) :
    Faulty ⟨before ++ e :: after, fault?⟩ cause
  | unreadable {entries : List Entry} {fault : Fault} (hvalid : ∀ e ∈ entries, e.Valid) :
    Faulty ⟨entries, some fault⟩ (.unreadable fault)
  | incomplete {entries : List Entry} {kind : LiteralKind} (hvalid : ∀ e ∈ entries, e.Valid)
    (hkey : ∀ e ∈ entries, e.key ≠ kind.key) : Faulty ⟨entries, none⟩ .incomplete

/-! ### One entry -/

theorem LiteralKind.key_injective : Function.Injective key := by
  intro kind kind'
  cases kind <;> cases kind' <;> decide

theorem Path.name?_eq_some_iff {path : Path} {name : String} :
    path.name? = some name ↔ path = ⟨false, [name]⟩ := by
  unfold name?
  split <;> simp_all

namespace Entry

variable {e : Entry} {σ τ : Setting} {cause : AttributeError}

/-- What the entry sets, or what is wrong with it. -/
def setting (e : Entry) : Except AttributeError Setting :=
  match e.key.name? with
  | some "name" => .name <$> readName e.value
  | some "code" => .code <$> readCode e.value
  | some "width" => .width <$> readWidth e.value
  | _ => .error .unknownKey

theorem Sets.key_eq (h : e.Sets σ) : e.key = σ.kind.key := by
  cases h <;> rfl

theorem Sets.setting_eq (h : e.Sets σ) : e.setting = .ok σ := by
  cases h with
  | name s => rfl
  | code c => rfl
  | @width n hn =>
    have hread : readWidth (.literal (.integer false n)) = .ok n.toUInt8 := if_pos hn
    exact map_eq_ok_iff.2 ⟨_, hread, rfl⟩

theorem Wrong.setting_eq (h : e.Wrong cause) : e.setting = .error cause := by
  cases h with
  | unknownKey he =>
    unfold setting
    split
    next hname => exact absurd (Path.name?_eq_some_iff.1 hname) (he .string)
    next hname => exact absurd (Path.name?_eq_some_iff.1 hname) (he .character)
    next hname => exact absurd (Path.name?_eq_some_iff.1 hname) (he .integer)
    next => rfl
  | noEquals kind | noLiteral kind => cases kind <;> rfl
  | @otherLiteral kind value hv =>
    cases kind <;> cases value <;> first | rfl | exact absurd rfl hv
  | negative n => rfl
  | @tooLarge n hn =>
    have hread : readWidth (.literal (.integer false n)) = .error .widthTooLarge :=
      if_neg (Nat.not_lt.2 hn)
    exact map_eq_error_iff.2 hread

/-- Nothing is wrong just if something is set. -/
theorem sets_or_wrong (e : Entry) : (∃ σ, e.Sets σ) ∨ ∃ cause, e.Wrong cause := by
  obtain ⟨key, value⟩ := e
  by_cases hk : ∃ kind : LiteralKind, key = kind.key
  · obtain ⟨kind, rfl⟩ := hk
    cases value with
    | missing => exact .inr ⟨_, .noEquals kind⟩
    | unfinished => exact .inr ⟨_, .noLiteral kind⟩
    | literal value =>
      by_cases hv : value.kind? = some kind
      · cases value with
        | string s =>
          cases hv
          exact .inl ⟨_, .name s⟩
        | character c =>
          cases hv
          exact .inl ⟨_, .code c⟩
        | integer negative n =>
          cases hv
          cases negative with
          | true => exact .inr ⟨_, .negative n⟩
          | false =>
            rcases Nat.lt_or_ge n 256 with hn | hn
            · exact .inl ⟨_, .width hn⟩
            · exact .inr ⟨_, .tooLarge hn⟩
        | other => cases hv
      · exact .inr ⟨_, .otherLiteral hv⟩
  · exact .inr ⟨_, .unknownKey fun kind hkind => hk ⟨kind, hkind⟩⟩

theorem setting_eq_ok_iff : e.setting = .ok σ ↔ e.Sets σ := by
  refine ⟨fun h => ?_, Sets.setting_eq⟩
  rcases e.sets_or_wrong with ⟨τ, hτ⟩ | ⟨cause, hcause⟩
  · cases h.symm.trans hτ.setting_eq
    exact hτ
  · cases h.symm.trans hcause.setting_eq

theorem setting_eq_error_iff : e.setting = .error cause ↔ e.Wrong cause := by
  refine ⟨fun h => ?_, Wrong.setting_eq⟩
  rcases e.sets_or_wrong with ⟨τ, hτ⟩ | ⟨cause', hcause⟩
  · cases h.symm.trans hτ.setting_eq
  · cases h.symm.trans hcause.setting_eq
    exact hcause

theorem Sets.unique (h : e.Sets σ) (h' : e.Sets τ) : σ = τ := by
  cases h.setting_eq.symm.trans h'.setting_eq
  rfl

end Entry

/-! ### Drafts -/

namespace Draft

variable {d : Draft} {σ τ : Setting}

/-- The draft holds the setting. -/
def Has (d : Draft) : Setting → Prop
  | .name s => d.name = some s
  | .code c => d.code = some c
  | .width w => d.width = some w

def put (d : Draft) : Setting → Draft
  | .name s => { d with name := some s }
  | .code c => { d with code := some c }
  | .width w => { d with width := some w }

theorem not_has_empty (σ : Setting) : ¬ Has {} σ := by
  cases σ <;> simp [Has]

theorem has_put_of_kind_eq (h : σ.kind = τ.kind) : (d.put τ).Has σ ↔ σ = τ := by
  cases σ <;> cases τ <;> cases h <;> simp [Has, put, eq_comm]

theorem has_put_of_kind_ne (h : σ.kind ≠ τ.kind) : (d.put τ).Has σ ↔ d.Has σ := by
  cases σ <;> cases τ <;> first | rfl | exact absurd rfl h

theorem set_eq (d : Draft) (e : Entry) : d.set e = d.put <$> e.setting := by
  by_cases hk : ∃ kind : LiteralKind, e.key = kind.key
  · obtain ⟨key, value⟩ := e
    obtain ⟨kind, rfl⟩ := hk
    unfold set Entry.setting
    cases kind with
    | string => cases readName value <;> rfl
    | character => cases readCode value <;> rfl
    | integer => cases readWidth value <;> rfl
  · have hne : ∀ kind : LiteralKind, e.key ≠ kind.key := fun kind hkind => hk ⟨kind, hkind⟩
    rw [(Entry.Wrong.unknownKey hne).setting_eq, set]
    split
    next hname => exact absurd (Path.name?_eq_some_iff.1 hname) (hne .string)
    next hname => exact absurd (Path.name?_eq_some_iff.1 hname) (hne .character)
    next hname => exact absurd (Path.name?_eq_some_iff.1 hname) (hne .integer)
    next => rfl

/-- Entries are read one by one and then put into the draft in their order. -/
theorem foldlM_set (entries : List Entry) (d : Draft) :
    entries.foldlM set d = (fun settings => settings.foldl put d) <$> entries.mapM Entry.setting := by
  induction entries generalizing d with
  | nil => rfl
  | cons e entries ih =>
    rw [List.foldlM_cons, List.mapM_cons, set_eq]
    cases e.setting with
    | error cause => rfl
    | ok σ =>
      refine (ih (d.put σ)).trans ?_
      cases entries.mapM Entry.setting <;> rfl

end Draft

/-! ### Lists of entries -/

variable {e : Entry} {entries : List Entry} {settings : List Setting} {σ : Setting}
  {variant : String} {row : Row} {cause : AttributeError}

theorem settles_cons_iff :
    Settles (e :: entries) σ ↔
      e.Sets σ ∧ (∀ e' ∈ entries, e'.key ≠ e.key) ∨ Settles entries σ := by
  constructor
  · rintro ⟨before, e', after, heq, hσ, hafter⟩
    cases before with
    | nil =>
      cases heq
      exact .inl ⟨hσ, hafter⟩
    | cons _ before =>
      cases heq
      exact .inr ⟨before, e', after, rfl, hσ, hafter⟩
  · rintro (⟨hσ, hafter⟩ | ⟨before, e', after, rfl, hσ, hafter⟩)
    · exact ⟨[], e, entries, rfl, hσ, hafter⟩
    · exact ⟨e :: before, e', after, rfl, hσ, hafter⟩

/-- A key that some entry has is settled by the last of them. -/
theorem exists_settles_iff (h : ∀ e ∈ entries, e.Valid) (kind : LiteralKind) :
    (∃ σ, σ.kind = kind ∧ Settles entries σ) ↔ ∃ e ∈ entries, e.key = kind.key := by
  constructor
  · rintro ⟨σ, rfl, before, e, after, rfl, hσ, -⟩
    exact ⟨e, by simp, hσ.key_eq⟩
  · intro hkey
    induction entries with
    | nil => simp at hkey
    | cons e entries ih =>
      -- a later entry of the key takes the place of this one
      by_cases hlater : ∃ e' ∈ entries, e'.key = kind.key
      · obtain ⟨σ, hσ, hs⟩ := ih (fun e' he' => h e' (List.mem_cons_of_mem _ he')) hlater
        exact ⟨σ, hσ, settles_cons_iff.2 (.inr hs)⟩
      · obtain ⟨σ, hσ⟩ := h e List.mem_cons_self
        have hek : e.key = kind.key := by
          obtain ⟨e', he', hk⟩ := hkey
          rcases List.mem_cons.1 he' with rfl | he'
          · exact hk
          · exact absurd ⟨e', he', hk⟩ hlater
        refine ⟨σ, LiteralKind.key_injective (hσ.key_eq.symm.trans hek),
          settles_cons_iff.2 (.inl ⟨hσ, ?_⟩)⟩
        intro e' he' hk
        exact hlater ⟨e', he', hk.trans hek⟩

/-- What a draft holds after the entries is what they settle, and what it held before of the
keys that they do not have. -/
theorem has_foldl_put_iff (h : List.Forall₂ Entry.Sets entries settings) {d : Draft} :
    (settings.foldl Draft.put d).Has σ ↔
      Settles entries σ ∨ d.Has σ ∧ ∀ e ∈ entries, e.key ≠ σ.kind.key := by
  induction h generalizing d with
  | nil => simp [Settles]
  | @cons e τ entries settings hτ _ ih =>
    rw [List.foldl_cons, ih, settles_cons_iff, List.forall_mem_cons]
    -- what the first entry sets is in the draft that the others are put into
    by_cases hk : σ.kind = τ.kind
    · have hkey : e.key = σ.kind.key := by rw [hτ.key_eq, hk]
      rw [Draft.has_put_of_kind_eq hk, hkey]
      constructor
      · rintro (hs | ⟨rfl, hlater⟩)
        · exact .inl (.inr hs)
        · exact .inl (.inl ⟨hτ, hlater⟩)
      · rintro ((⟨hσ, hlater⟩ | hs) | ⟨-, hne, -⟩)
        · exact .inr ⟨hσ.unique hτ, hlater⟩
        · exact .inl hs
        · exact absurd rfl hne
    · have hkey : e.key ≠ σ.kind.key := by
        rw [hτ.key_eq]
        exact fun h => hk (LiteralKind.key_injective h).symm
      rw [Draft.has_put_of_kind_ne hk]
      constructor
      · rintro (hs | ⟨hd, hlater⟩)
        · exact .inl (.inr hs)
        · exact .inr ⟨hd, hkey, hlater⟩
      · rintro ((⟨hσ, -⟩ | hs) | ⟨hd, -, hlater⟩)
        · exact absurd hσ.key_eq hkey
        · exact .inl hs
        · exact .inr ⟨hd, hlater⟩

theorem complete_eq_ok_iff {d : Draft} :
    d.complete variant = .ok row ↔ row.variant = variant ∧
      d.Has (.name row.name) ∧ d.Has (.code row.code) ∧ d.Has (.width row.width) := by
  obtain ⟨name, code, width⟩ := d
  obtain ⟨v, n, c, w⟩ := row
  cases name <;> cases code <;> cases width <;> simp [Draft.complete, Draft.Has, eq_comm]

theorem complete_eq_error_iff {d : Draft} :
    d.complete variant = .error cause ↔
      cause = .incomplete ∧ ∃ kind, ∀ σ : Setting, σ.kind = kind → ¬ d.Has σ := by
  constructor
  · intro h
    obtain ⟨name, code, width⟩ := d
    cases name with
    | none =>
      cases h
      refine ⟨rfl, .string, fun σ hσ => ?_⟩
      cases σ <;> cases hσ
      simp [Draft.Has]
    | some n =>
      cases code with
      | none =>
        cases h
        refine ⟨rfl, .character, fun σ hσ => ?_⟩
        cases σ <;> cases hσ
        simp [Draft.Has]
      | some c =>
        cases width with
        | none =>
          cases h
          refine ⟨rfl, .integer, fun σ hσ => ?_⟩
          cases σ <;> cases hσ
          simp [Draft.Has]
        | some w => cases h
  · rintro ⟨rfl, kind, hk⟩
    unfold Draft.complete
    split
    next n c w =>
      cases kind with
      | string => exact absurd rfl (hk (.name n) rfl)
      | character => exact absurd rfl (hk (.code c) rfl)
      | integer => exact absurd rfl (hk (.width w) rfl)
    next => rfl

theorem foldlM_set_eq_ok_iff {d d' : Draft} :
    entries.foldlM Draft.set d = .ok d' ↔
      ∃ settings, List.Forall₂ Entry.Sets entries settings ∧ settings.foldl Draft.put d = d' := by
  rw [Draft.foldlM_set, map_eq_ok_iff]
  simp only [mapM_eq_ok_iff, Entry.setting_eq_ok_iff]

theorem foldlM_set_eq_error_iff {d : Draft} :
    entries.foldlM Draft.set d = .error cause ↔ ∃ before e after,
      entries = before ++ e :: after ∧ (∀ e' ∈ before, e'.Valid) ∧ e.Wrong cause := by
  rw [Draft.foldlM_set, map_eq_error_iff, mapM_eq_error_iff]
  simp only [Entry.setting_eq_ok_iff, Entry.setting_eq_error_iff, Entry.Valid]

theorem exists_foldlM_set_iff {d : Draft} :
    (∃ d', entries.foldlM Draft.set d = .ok d') ↔ ∀ e ∈ entries, e.Valid := by
  have hread : (∃ settings, entries.mapM Entry.setting = .ok settings) ↔
      ∀ e ∈ entries, ∃ σ, e.setting = .ok σ := exists_mapM_eq_ok_iff
  simp only [mapM_eq_ok_iff, Entry.setting_eq_ok_iff] at hread
  simp only [foldlM_set_eq_ok_iff, Entry.Valid, ← hread]
  constructor
  · rintro ⟨_, settings, hs, rfl⟩
    exact ⟨settings, hs⟩
  · rintro ⟨settings, hs⟩
    exact ⟨_, settings, hs, rfl⟩

theorem has_iff_settles {d : Draft} (h : entries.foldlM Draft.set {} = .ok d) :
    d.Has σ ↔ Settles entries σ := by
  obtain ⟨settings, hs, rfl⟩ := foldlM_set_eq_ok_iff.1 h
  rw [has_foldl_put_iff hs]
  exact or_iff_left fun hd => Draft.not_has_empty σ hd.1

theorem readEntries_eq_ok_iff {list : EntryList} :
    readEntries variant list = .ok row ↔ row.variant = variant ∧ list.Fills row := by
  obtain ⟨entries, fault?⟩ := list
  rw [readEntries, bind_eq_ok_iff]
  constructor
  · rintro ⟨d, hd, h⟩
    cases fault? with
    | some fault => cases h
    | none =>
      obtain ⟨hrow, hname, hcode, hwidth⟩ := complete_eq_ok_iff.1 h
      exact ⟨hrow, rfl, exists_foldlM_set_iff.1 ⟨d, hd⟩, (has_iff_settles hd).1 hname,
        (has_iff_settles hd).1 hcode, (has_iff_settles hd).1 hwidth⟩
  · rintro ⟨hrow, hfault, hvalid, hname, hcode, hwidth⟩
    cases hfault
    obtain ⟨d, hd⟩ := exists_foldlM_set_iff.2 hvalid
    exact ⟨d, hd, complete_eq_ok_iff.2 ⟨hrow, (has_iff_settles hd).2 hname,
      (has_iff_settles hd).2 hcode, (has_iff_settles hd).2 hwidth⟩⟩

theorem readEntries_eq_error_iff {list : EntryList} :
    readEntries variant list = .error cause ↔ list.Faulty cause := by
  obtain ⟨entries, fault?⟩ := list
  rw [readEntries, bind_eq_error_iff]
  constructor
  · rintro (h | ⟨d, hd, h⟩)
    · obtain ⟨before, e, after, hentries, hbefore, he⟩ := foldlM_set_eq_error_iff.1 h
      cases hentries
      exact .entry hbefore he
    · have hvalid : ∀ e ∈ entries, e.Valid := exists_foldlM_set_iff.1 ⟨d, hd⟩
      cases fault? with
      | some fault =>
        cases h
        exact .unreadable hvalid
      | none =>
        obtain ⟨rfl, kind, hk⟩ := complete_eq_error_iff.1 h
        have hkey : ∀ e ∈ entries, e.key ≠ kind.key := by
          intro e he hek
          obtain ⟨σ, hσ, hs⟩ := (exists_settles_iff hvalid kind).2 ⟨e, he, hek⟩
          exact hk σ hσ ((has_iff_settles hd).2 hs)
        exact .incomplete hvalid hkey
  · intro h
    cases h with
    | entry hbefore he => exact .inl (foldlM_set_eq_error_iff.2 ⟨_, _, _, rfl, hbefore, he⟩)
    | unreadable hvalid =>
      obtain ⟨d, hd⟩ := exists_foldlM_set_iff.2 hvalid
      exact .inr ⟨d, hd, rfl⟩
    | @incomplete _ kind hvalid hkey =>
      obtain ⟨d, hd⟩ := exists_foldlM_set_iff.2 hvalid
      refine .inr ⟨d, hd, complete_eq_error_iff.2 ⟨rfl, kind, fun σ hσ hhas => ?_⟩⟩
      obtain ⟨e, he, hek⟩ :=
        (exists_settles_iff hvalid kind).1 ⟨σ, hσ, (has_iff_settles hd).1 hhas⟩
      exact hkey e he hek

/-- A list fills a row just if every entry sets something, the list is read to its end and no key
is missing. -/
theorem EntryList.exists_fills_iff {list : EntryList} (variant : String) :
    (∃ row, row.variant = variant ∧ list.Fills row) ↔ list.fault? = none ∧
      (∀ e ∈ list.entries, e.Valid) ∧ ∀ kind : LiteralKind, ∃ e ∈ list.entries, e.key = kind.key := by
  constructor
  · rintro ⟨row, -, h⟩
    refine ⟨h.fault?_eq, h.valid, fun kind => (exists_settles_iff h.valid kind).1 ?_⟩
    cases kind with
    | string => exact ⟨_, rfl, h.name⟩
    | character => exact ⟨_, rfl, h.code⟩
    | integer => exact ⟨_, rfl, h.width⟩
  · rintro ⟨hfault, hvalid, hkey⟩
    have settled (kind : LiteralKind) := (exists_settles_iff hvalid kind).2 (hkey kind)
    obtain ⟨s | _ | _, ⟨⟩, hname⟩ := settled .string
    obtain ⟨_ | c | _, ⟨⟩, hcode⟩ := settled .character
    obtain ⟨_ | _ | w, ⟨⟩, hwidth⟩ := settled .integer
    exact ⟨⟨variant, s, c, w⟩, rfl, hfault, hvalid, hname, hcode, hwidth⟩

end ArrayTypes.KindTable
