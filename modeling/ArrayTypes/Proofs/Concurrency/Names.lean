import ArrayTypes.Interner
import ArrayTypes.Proofs.NamePool

/-! Names of texts that many threads make, read and compare. However their steps interleave,
the table holds just the names that were given out, one for each text. A name that was
given out once reads and compares as its text from then on. -/

namespace ArrayTypes

variable {ι Table Name : Type} {I : Interner Table Name} {t : Table} {text : String} {x : Name}

/-! ### Whole requests -/

/-- What a thread asks of the table. -/
inductive NameRequest (Name : Type) where
  | make (text : String)
  | read (name : Name)
  | compare (name : Name) (text : String)
  deriving DecidableEq, Repr

namespace Interner

/-- Interning gives its text a name, and all other texts keep theirs. -/
theorem Lawful.find?_intern_eq (hI : I.Lawful) (t : Table) (text s : String) :
    I.find? (I.intern t text).2 s = if s = text then some (I.intern t text).1 else I.find? t s := by
  cases hf : I.find? t text with
  | none => exact hI.find?_intern hf s
  | some x =>
    rw [hI.intern_of_find? hf]
    split
    next hs => rw [hs, hf]
    next => rfl

/-- No name is the name of two texts. -/
theorem Lawful.eq_of_find? (hI : I.Lawful) {s s' : String} (h : I.find? t s = some x)
    (h' : I.find? t s' = some x) : s = s' :=
  Option.some.inj ((hI.text?_of_find? h).symm.trans (hI.text?_of_find? h'))

variable [DecidableEq Name]

theorem spells_eq_true_iff : I.spells t x text = true ↔ I.find? t text = some x :=
  decide_eq_true_iff

/-- The answer to a request that is made in one go, and the table after it. -/
def serve (I : Interner Table Name) (t : Table) : NameRequest Name → NameAnswer Name × Table
  | .make text =>
    let (x, t') := I.intern t text
    (.made text x, t')
  | .read x => (.read x (I.text? t x), t)
  | .compare x text => (.compared x text (I.spells t x text), t)

/-- A request adds no name but the one that it answers with. -/
theorem find?_serve_eq_some_iff (hI : I.Lawful) (t : Table) (q : NameRequest Name) :
    I.find? (I.serve t q).2 text = some x ↔
      I.find? t text = some x ∨ .made text x = (I.serve t q).1 := by
  cases q with
  | read y => simp [serve]
  | compare y s => simp [serve]
  | make s =>
    simp only [serve, hI.find?_intern_eq, NameAnswer.made.injEq]
    by_cases hs : text = s
    · subst hs
      -- interning renames nothing: if the text was there, its name is the answer
      have hkeep (h : I.find? t text = some x) : x = (I.intern t text).1 := by
        rw [hI.intern_of_find? h]
      simpa [eq_comm] using hkeep
    · simp [hs]

end Interner

namespace NameThread

variable [DecidableEq Name]

/-- A step shows nothing, or it does what a whole request would do at that moment. -/
theorem step_cases (hI : I.Lawful) (t : Table) (h : NameThread Name) (s : NameStep Name) :
    ((h.step I t s).1 = t ∧ (h.step I t s).2.told = h.told) ∨
      ∃ q, h.step I t s = ((I.serve t q).2, h.tell (I.serve t q).1) := by
  unfold step
  split
  next _ text _ =>
    -- a text that is found at once would be found by interning too
    split
    next x hx => exact .inr ⟨.make text, by simp only [Interner.serve, hI.intern_of_find? hx]⟩
    next => exact .inl ⟨rfl, rfl⟩
  next text _ => exact .inr ⟨.make text, rfl⟩
  next _ x _ => exact .inr ⟨.read x, rfl⟩
  next _ x text _ => exact .inr ⟨.compare x text, rfl⟩
  next => exact .inl ⟨rfl, rfl⟩

/-- A step only adds to what a thread was told, and the table gains just the names that it
tells. -/
theorem exists_told_step (hI : I.Lawful) (t : Table) (h : NameThread Name) (s : NameStep Name) :
    ∃ as, (h.step I t s).2.told = h.told ++ as ∧ ∀ text x,
      I.find? (h.step I t s).1 text = some x ↔ I.find? t text = some x ∨ .made text x ∈ as := by
  rcases h.step_cases hI t s with ⟨htable, htold⟩ | ⟨q, hq⟩
  · exact ⟨[], by rw [htold, List.append_nil], by simp [htable]⟩
  · refine ⟨[(I.serve t q).1], by rw [hq]; rfl, fun text x => ?_⟩
    rw [hq, Interner.find?_serve_eq_some_iff hI, List.mem_singleton]

end NameThread

/-! ### The names that were given out -/

namespace NameCrew

variable {c : NameCrew ι Table Name} {i j : ι}

/-- The table holds the names that were given out, and no others. -/
def Accounts (c : NameCrew ι Table Name) (I : Interner Table Name) : Prop :=
  ∀ text x, c.Made text x ↔ I.find? c.table text = some x

theorem accounts_start (hI : I.Lawful) : (start I : NameCrew ι Table Name).Accounts I := by
  intro text x
  simp [Made, start, NameThread.start, hI.find?_empty]

namespace Accounts

variable {s s' : String} {x x' : Name}

theorem text?_eq (hc : c.Accounts I) (hI : I.Lawful) (h : c.Made s x) :
    I.text? c.table x = some s :=
  hI.text?_of_find? ((hc s x).1 h)

/-- Names that were given out are the same just if their texts are. -/
theorem eq_iff (hc : c.Accounts I) (hI : I.Lawful) (h : c.Made s x) (h' : c.Made s' x') :
    x = x' ↔ s = s' := by
  have hs : I.find? c.table s = some x := (hc s x).1 h
  have hs' : I.find? c.table s' = some x' := (hc s' x').1 h'
  constructor
  · rintro rfl
    exact hI.eq_of_find? hs hs'
  · rintro rfl
    exact Option.some.inj (hs.symm.trans hs')

variable [DecidableEq Name]

/-- A name that was given out compares as its text. -/
theorem spells_iff (hc : c.Accounts I) (hI : I.Lawful) (h : c.Made s x) :
    I.spells c.table x s' = true ↔ s = s' := by
  rw [Interner.spells_eq_true_iff, ← hc s' x]
  constructor
  · exact fun h' => (hc.eq_iff hI h h').1 rfl
  · rintro rfl
    exact h

/-- No name compares as a text that no name was given out for. -/
theorem spells_eq_false (hc : c.Accounts I) (hs : ∀ x, ¬ c.Made s x) (x : Name) :
    I.spells c.table x s = false := by
  rw [Bool.eq_false_iff, Ne, Interner.spells_eq_true_iff, ← hc s x]
  exact hs x

end Accounts

variable [DecidableEq ι]

/-- A thread that is told more brings up the names that it is told. -/
theorem made_put_iff {h : NameThread Name} {as : List (NameAnswer Name)}
    (hh : h.told = (c.threads i).told ++ as) :
    (c.put i h).Made text x ↔ c.Made text x ∨ .made text x ∈ as := by
  have hself : (c.put i h).threads i = h := if_pos rfl
  have hother (j : ι) (hj : j ≠ i) : (c.put i h).threads j = c.threads j := if_neg hj
  constructor
  · rintro ⟨j, hm⟩
    by_cases hj : j = i
    · rw [hj, hself, hh] at hm
      exact (List.mem_append.1 hm).imp_left fun hm => ⟨i, hm⟩
    · rw [hother j hj] at hm
      exact .inl ⟨j, hm⟩
  · rintro (⟨j, hm⟩ | hm)
    · by_cases hj : j = i
      · subst hj
        exact ⟨j, by rw [hself, hh]; exact List.mem_append_left as hm⟩
      · exact ⟨j, by rwa [hother j hj]⟩
    · exact ⟨i, by rw [hself, hh]; exact List.mem_append_right _ hm⟩

variable [DecidableEq Name]

/-- A step only adds to the names that were given out, and the table gains just these. -/
theorem exists_made_step (hI : I.Lawful) (c : NameCrew ι Table Name) (i : ι) (s : NameStep Name) :
    ∃ as : List (NameAnswer Name),
      (∀ text x, (c.step I i s).Made text x ↔ c.Made text x ∨ .made text x ∈ as) ∧
      ∀ text x, I.find? (c.step I i s).table text = some x ↔
        I.find? c.table text = some x ∨ .made text x ∈ as := by
  obtain ⟨as, htold, htable⟩ := (c.threads i).exists_told_step hI c.table s
  exact ⟨as, fun text x => made_put_iff htold, htable⟩

theorem Accounts.step (hI : I.Lawful) (hc : c.Accounts I) (i : ι) (s : NameStep Name) :
    (c.step I i s).Accounts I := by
  intro text x
  obtain ⟨as, hmade, htable⟩ := exists_made_step hI c i s
  rw [hmade, htable, hc text x]

theorem Accounts.run (hI : I.Lawful) (hc : c.Accounts I) (steps : List (ι × NameStep Name)) :
    (c.run I steps).Accounts I := by
  induction steps generalizing c with
  | nil => exact hc
  | cons p steps ih => exact ih (hc.step hI p.1 p.2)

/-- What was given out stays given out. -/
theorem Made.run (hI : I.Lawful) (h : c.Made text x) (later : List (ι × NameStep Name)) :
    (c.run I later).Made text x := by
  induction later generalizing c with
  | nil => exact h
  | cons p later ih =>
    obtain ⟨as, hmade, -⟩ := exists_made_step hI c p.1 p.2
    exact ih ((hmade text x).2 (.inl h))

/-! ### One thread among others -/

theorem threads_step_self (c : NameCrew ι Table Name) (i : ι) (s : NameStep Name) :
    (c.step I i s).threads i = ((c.threads i).step I c.table s).2 :=
  if_pos rfl

theorem threads_step_of_ne (c : NameCrew ι Table Name) (s : NameStep Name) (h : j ≠ i) :
    (c.step I i s).threads j = c.threads j :=
  if_neg h

theorem threads_run_of_forall_ne {steps : List (ι × NameStep Name)} (h : ∀ p ∈ steps, p.1 ≠ i) :
    (c.run I steps).threads i = c.threads i := by
  induction steps generalizing c with
  | nil => rfl
  | cons p steps ih =>
    obtain ⟨hp, hsteps⟩ := List.forall_mem_cons.1 h
    exact (ih hsteps).trans (threads_step_of_ne c p.2 (Ne.symm hp))

theorem step_read (hi : (c.threads i).missed = none) (x : Name) :
    c.step I i (.read x) = c.tell i (.read x (I.text? c.table x)) := by
  simp only [step, NameThread.step, hi, tell]

theorem step_compare (hi : (c.threads i).missed = none) (x : Name) (text : String) :
    c.step I i (.compare x text) = c.tell i (.compared x text (I.spells c.table x text)) := by
  simp only [step, NameThread.step, hi, tell]

/-- Whatever other threads do between the two steps towards a name, a thread has it after
the second. -/
theorem exists_threads_run_eq_tell (hi : (c.threads i).missed = none) (text : String)
    {others : List (ι × NameStep Name)} (ho : ∀ p ∈ others, p.1 ≠ i) :
    ∃ x, (c.run I ((i, .look text) :: others ++ [(i, .add)])).threads i =
      (c.threads i).tell (.made text x) := by
  have hrun : c.run I ((i, .look text) :: others ++ [(i, .add)]) =
      ((c.step I i (.look text)).run I others).step I i .add := by
    simp only [run, List.cons_append, List.foldl_cons, List.foldl_append, List.foldl_nil]
  rw [hrun, threads_step_self, threads_run_of_forall_ne ho, threads_step_self]
  -- after a hit the second step is none; after a miss it adds to whatever table it meets
  cases hf : I.find? c.table text with
  | some x => exact ⟨x, by simp only [NameThread.step, hi, hf, NameThread.tell]⟩
  | none => exact ⟨_, by simp only [NameThread.step, hi, hf, NameThread.tell]; rfl⟩

/-- Threads that start with an empty table and take their steps in any order. Whoever was
given them and when, names are the same just if their texts are, and the table holds them
and no others. A name that was given out reads as its text ever after, and compares true
with just the text that it reads as. Comparing adds nothing, and with a text that no name
was given out for it is false. A thread that looks a text up has the name after its next
step at the latest. -/
theorem names_stand_for_texts (hI : I.Lawful) (steps : List (ι × NameStep Name)) :
    let c := (start I : NameCrew ι Table Name).run I steps
    (∀ s s' x x', c.Made s x → c.Made s' x' → (x = x' ↔ s = s')) ∧
    (∀ s x, c.Made s x ↔ I.find? c.table s = some x) ∧
    (∀ s x, c.Made s x → ∀ later, let d := c.run I later
      I.text? d.table x = some s ∧
      (∀ s', I.spells d.table x s' = true ↔ I.text? d.table x = some s') ∧
      ∀ i, (d.threads i).missed = none →
        d.step I i (.read x) = d.tell i (.read x (some s)) ∧
        ∀ s', d.step I i (.compare x s') = d.tell i (.compared x s' (decide (s = s')))) ∧
    (∀ i x s, (c.step I i (.compare x s)).table = c.table) ∧
    (∀ s, (∀ x, ¬ c.Made s x) → ∀ x, I.spells c.table x s = false) ∧
    (∀ i s, (c.threads i).missed = none → ∀ others, (∀ p ∈ others, p.1 ≠ i) →
      ∃ x, (c.run I ((i, .look s) :: others ++ [(i, .add)])).threads i =
        (c.threads i).tell (.made s x)) := by
  intro c
  have hc : c.Accounts I := (accounts_start hI).run hI steps
  refine ⟨fun s s' x x' h h' => hc.eq_iff hI h h', hc, ?_, ?_, ?_, ?_⟩
  · intro s x h later d
    have hd : d.Accounts I := hc.run hI later
    have hx : d.Made s x := h.run hI later
    have htext : I.text? d.table x = some s := hd.text?_eq hI hx
    refine ⟨htext, fun s' => ?_, fun i hi => ⟨?_, fun s' => ?_⟩⟩
    · rw [hd.spells_iff hI hx, htext, Option.some_inj]
    · rw [step_read hi, htext]
    · rw [step_compare hi, Bool.eq_iff_iff.2 ((hd.spells_iff hI hx).trans decide_eq_true_iff.symm)]
  · intro i x s
    cases hm : (c.threads i).missed with
    | none => rw [step_compare hm]; rfl
    | some _ => simp only [step, NameThread.step, hm, put]
  · exact fun s hs x => hc.spells_eq_false hs x
  · exact fun i s hi others ho => exists_threads_run_eq_tell hi s ho

/-- Two threads miss one text before either adds it, and both are given the name that the
first of them made. -/
theorem dog_named_once :
    let steps : List (ℕ × NameStep Symbol) := [(0, .look "Dog"), (1, .look "Dog"),
      (2, .look "Cat"), (1, .add), (2, .add), (0, .add), (2, .compare ⟨0⟩ "Cow")]
    let c := (start NamePool.interner).run NamePool.interner steps
    NamePool.interner.Lawful ∧ .made "Dog" ⟨0⟩ ∈ (c.threads 0).told ∧
    .made "Dog" ⟨0⟩ ∈ (c.threads 1).told ∧ .made "Cat" ⟨1⟩ ∈ (c.threads 2).told ∧
    ((⟨0⟩ : Symbol) = ⟨1⟩ ↔ "Dog" = "Cat") ∧ c.table.text? ⟨0⟩ = some "Dog" ∧
    c.step NamePool.interner 0 (.compare ⟨0⟩ "Cow") = c.tell 0 (.compared ⟨0⟩ "Cow" false) := by
  intro steps c
  have h₀ : .made "Dog" ⟨0⟩ ∈ (c.threads 0).told := by decide +kernel
  have h₁ : .made "Dog" ⟨0⟩ ∈ (c.threads 1).told := by decide +kernel
  have h₂ : .made "Cat" ⟨1⟩ ∈ (c.threads 2).told := by decide +kernel
  have hfree : (c.threads 0).missed = none := by decide +kernel
  obtain ⟨heq, -, hlater, -⟩ := names_stand_for_texts NamePool.lawful_interner steps
  obtain ⟨htext, -, hstep⟩ := hlater "Dog" ⟨0⟩ ⟨0, h₀⟩ []
  exact ⟨NamePool.lawful_interner, h₀, h₁, h₂, heq _ _ _ _ ⟨0, h₀⟩ ⟨2, h₂⟩, htext,
    (hstep 0 hfree).2 "Cow"⟩

end NameCrew

end ArrayTypes
