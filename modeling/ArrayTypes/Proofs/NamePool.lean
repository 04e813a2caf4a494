import ArrayTypes.Interner
import Mathlib.Data.List.Nodup

/-! A pool that lists no name twice matches symbols with names one to one. Adding names keeps
it so, and keeps every symbol's text. As an interner a pool keeps what is expected of one. -/

namespace ArrayTypes.NamePool

variable {p q : NamePool} {s s' : Symbol} {name : String}

/-- No name has two symbols. -/
def Distinct (p : NamePool) : Prop :=
  p.names.toList.Nodup

/-- The symbols of one pool have the same texts in another. -/
def Grows (p q : NamePool) : Prop :=
  ∀ (s : Symbol) (text : String), p.text? s = some text → q.text? s = some text

theorem Grows.refl (p : NamePool) : p.Grows p :=
  fun _ _ hs => hs

theorem Grows.trans {o : NamePool} (h : o.Grows p) (h' : p.Grows q) : o.Grows q :=
  fun s text hs => h' s text (h s text hs)

theorem distinct_empty : empty.Distinct :=
  List.nodup_nil

theorem text?_of_find? (h : p.find? name = some s) : p.text? s = some name := by
  obtain ⟨index, hindex, rfl⟩ := Option.map_eq_some_iff.1 h
  rw [Array.idxOf?_eq_map_finIdxOf?_val] at hindex
  obtain ⟨i, hi, rfl⟩ := Option.map_eq_some_iff.1 hindex
  rw [← (Array.finIdxOf?_eq_some_iff.1 hi).1]
  exact Array.getElem?_eq_getElem i.isLt

theorem not_mem_of_find? (h : p.find? name = none) : name ∉ p.names.toList := by
  rw [find?, Option.map_eq_none_iff] at h
  simpa using h

/-- In a pool without repetitions only one symbol has a given text. -/
theorem Distinct.eq_of_text? (hp : p.Distinct) (h : p.text? s = some name)
    (h' : p.text? s' = some name) : s = s' := by
  rw [text?, ← Array.getElem?_toList] at h h'
  have hlt : s.index < p.names.toList.length := (List.getElem?_eq_some_iff.1 h).1
  have hindex : s.index = s'.index := (List.getElem?_inj hlt hp).1 (h.trans h'.symm)
  cases s
  cases s'
  exact congrArg Symbol.mk hindex

theorem find?_of_text? (hp : p.Distinct) (h : p.text? s = some name) : p.find? name = some s := by
  cases hs : p.find? name with
  | some s' => rw [hp.eq_of_text? (text?_of_find? hs) h]
  | none =>
    obtain ⟨hi, hname⟩ := Array.getElem?_eq_some_iff.1 h
    exact absurd (Array.mem_toList_iff.2 (hname ▸ Array.getElem_mem hi)) (not_mem_of_find? hs)

theorem spells_eq (hp : p.Distinct) (h : p.text? s = some name) (text : String) :
    p.spells s text = decide (name = text) := by
  rw [spells, decide_eq_decide]
  constructor
  · intro hs
    exact Option.some.inj (h.symm.trans (text?_of_find? hs))
  · rintro rfl
    exact find?_of_text? hp h

/-- `x` is a symbol of the name with the pool after it was made in `p`. -/
structure Makes (p : NamePool) (name : String) (x : Symbol × NamePool) : Prop where
  text?_eq : x.2.text? x.1 = some name
  grows : p.Grows x.2
  distinct : x.2.Distinct

theorem makes_of_text? (hp : p.Distinct) (h : p.text? s = some name) : p.Makes name (s, p) :=
  ⟨h, .refl p, hp⟩

theorem grows_push (p : NamePool) (name : String) : p.Grows ⟨p.names.push name⟩ := by
  intro s text hs
  obtain ⟨hi, rfl⟩ := Array.getElem?_eq_some_iff.1 hs
  exact Array.getElem?_push_lt hi

theorem makes_intern (hp : p.Distinct) (name : String) : p.Makes name (p.intern name) := by
  unfold intern
  split
  next s hs => exact makes_of_text? hp (text?_of_find? hs)
  next hs =>
    refine ⟨Array.getElem?_push_size, grows_push p name, ?_⟩
    rw [Distinct, Array.toList_push, ← List.concat_eq_append]
    exact List.Nodup.concat (not_mem_of_find? hs) hp

/-! ### Pools as interners -/

/-- A pool looks through its names from the first. -/
theorem find?_eq (p : NamePool) (name : String) :
    p.find? name = (p.names.toList.findIdx? (· == name)).map Symbol.mk := by
  obtain ⟨⟨names⟩⟩ := p
  rw [find?, List.idxOf?_toArray, List.idxOf?]

theorem intern_of_find? (h : p.find? name = some s) : p.intern name = (s, p) := by
  simp only [intern, h]

/-- A name that was missing is all that is added. -/
theorem find?_intern (h : p.find? name = none) (other : String) :
    (p.intern name).2.find? other =
      if other = name then some (p.intern name).1 else p.find? other := by
  have hadd : p.intern name = (⟨p.names.size⟩, ⟨p.names.push name⟩) := by simp only [intern, h]
  rw [hadd, find?_eq, Array.toList_push, List.findIdx?_append, Option.map_or, ← find?_eq]
  split
  next ho => simp [ho, h]
  next ho => simp [Ne.symm ho]

theorem lawful_interner : interner.Lawful where
  find?_empty name := find?_eq empty name
  intern_of_find? := intern_of_find?
  find?_intern := find?_intern
  text?_of_find? := text?_of_find?

end ArrayTypes.NamePool
