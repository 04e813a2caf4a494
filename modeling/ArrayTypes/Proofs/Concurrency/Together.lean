import ArrayTypes.Proofs.Concurrency.Linearization
import ArrayTypes.Proofs.Registry.Twins
import ArrayTypes.Proofs.Related

/-! Threads that share a registry and take their components from primitives and from each
other's answers alone. Run to their ends on twins they ask for the same types, so that the
handles that they find correspond, and they agree on the one registry just if they do on
the other. -/

namespace ArrayTypes

/-! ### Threads in turn -/

theorem le_foldl_max {a m : Nat} {l : List Nat} (h : a ≤ m ∨ a ∈ l) : a ≤ l.foldl max m := by
  induction l generalizing m with
  | nil => exact h.resolve_right List.not_mem_nil
  | cons b l ih =>
    apply ih
    rcases h with h | h
    · exact .inl (le_max_of_le_left h)
    · rcases List.mem_cons.1 h with rfl | h
      · exact .inl (le_max_right m a)
      · exact .inr h

namespace Crew

variable {r : Registry} {programs : List (List (Request Source))} {c : Crew}

/-- The turns are as many as the longest program can need. -/
theorem finished_finish (r : Registry) (programs : List (List (Request Source))) :
    (finish r programs).Finished := by
  apply finished_run
  intro i hi
  have hcount : (List.range (start r programs).threads.length).count i = 1 :=
    List.count_eq_one_of_mem List.nodup_range (by simpa [start] using hi)
  have hlongest : programs[i].length ≤
      ((start r programs).threads.map fun t => t.pending.length).foldl max 0 :=
    le_foldl_max (.inr (List.mem_map_of_mem (List.mem_map_of_mem (List.getElem_mem hi))))
  rw [inTurn, List.count_flatten, List.map_replicate, List.sum_replicate_nat, hcount, Nat.mul_one]
  exact Nat.mul_le_mul_left 2 hlongest

end Crew

/-! ### Programs that need no handles -/

/-- The component is a primitive, or an answer to the program itself. -/
def Source.Closed (r : Registry) : Source → Prop
  | handle h => ∃ kind, h = r.primitive kind
  | result _ => True

def Request.Closed (r : Registry) : Request Source → Prop
  | reference _ => True
  | arrayOf component => component.Closed r

namespace Registry

variable {extra : Set TypeLiteral} {r r' : Registry}

theorem closed_source_of_id_eq (hid : r.id = r'.id) {s : Source} (hs : s.Closed r) :
    s.Closed r' := by
  cases s with
  | result i => trivial
  | handle h =>
    obtain ⟨kind, rfl⟩ := hs
    exact ⟨kind, by rw [primitive, primitive, hid]⟩

theorem closed_of_id_eq (hid : r.id = r'.id) {q : Request Source} (hq : q.Closed r) :
    q.Closed r' := by
  cases q with
  | reference name => trivial
  | arrayOf s => exact closed_source_of_id_eq hid hq

theorem knows_of_closed (hr : r.Consistent) {q : Request Source} (hq : q.Closed r) :
    r.Knows q := by
  cases q with
  | reference name => trivial
  | arrayOf s =>
    cases s with
    | result i => trivial
    | handle h =>
      obtain ⟨kind, rfl⟩ := hq
      intro
      rw [hr.count_eq]
      exact Nat.lt_of_lt_of_le kind.index_lt (by omega)

theorem closed_levelRequests {s : Source} (hs : s.Closed r) (made n : Nat) :
    (∀ q ∈ (levelRequests s made n).1, q.Closed r) ∧ (levelRequests s made n).2.Closed r := by
  induction n generalizing s made with
  | zero => exact ⟨by simp [levelRequests], hs⟩
  | succ n ih =>
    obtain ⟨hrest, hsource⟩ := ih (s := .result made) trivial (made + 1)
    refine ⟨?_, hsource⟩
    simp only [levelRequests, List.forall_mem_cons]
    exact ⟨hs, hrest⟩

theorem closed_typeRequests (r : Registry) (t : TypeLiteral) (made : Nat) :
    (∀ q ∈ (r.typeRequests t made).1, q.Closed r) ∧ (r.typeRequests t made).2.Closed r := by
  obtain ⟨e, n⟩ := t
  cases e with
  | primitive kind => exact closed_levelRequests (s := .handle (r.primitive kind)) ⟨kind, rfl⟩ made n
  | reference name =>
    obtain ⟨hrest, hsource⟩ :=
      closed_levelRequests (r := r) (s := .result made) trivial (made + 1) n
    refine ⟨?_, hsource⟩
    simp only [typeRequests, List.forall_mem_cons]
    exact ⟨trivial, hrest⟩

theorem closed_textRequests (r : Registry) (texts : List String) (made : Nat) :
    (∀ q ∈ (r.textRequests texts made).1, q.Closed r) ∧
      ∀ s, some s ∈ (r.textRequests texts made).2 → s.Closed r := by
  induction texts generalizing made with
  | nil => simp [textRequests]
  | cons text texts ih =>
    simp only [textRequests]
    cases TypeLiteral.parse text with
    | error cause =>
      obtain ⟨hrequests, hsources⟩ := ih made
      exact ⟨hrequests, by simpa using hsources⟩
    | ok t =>
      obtain ⟨hown, hsource⟩ := r.closed_typeRequests t made
      obtain ⟨hrequests, hsources⟩ := ih (made + (r.typeRequests t made).1.length)
      refine ⟨?_, ?_⟩
      · intro q hq
        exact (List.mem_append.1 hq).elim (hown q) (hrequests q)
      · intro s hs
        rcases List.mem_cons.1 hs with hs | hs
        · cases hs
          exact hsource
        · exact hsources s hs

theorem closed_roundRequests (r : Registry) (name : String) (rounds : Nat) :
    ∀ q ∈ roundRequests name rounds, q.Closed r := by
  intro q hq
  obtain ⟨i, -, hi⟩ := List.mem_flatMap.1 hq
  simp only [List.mem_cons, List.not_mem_nil, or_false] at hi
  rcases hi with rfl | rfl | rfl <;> trivial

theorem closed_textPrograms (r : Registry) (threads : Nat) (texts : List String) :
    ∀ program ∈ r.textPrograms threads texts, ∀ q ∈ program, q.Closed r := by
  intro program hm
  obtain ⟨i, -, rfl⟩ := mem_textPrograms_iff.1 hm
  exact (r.closed_textRequests _ 0).1

theorem closed_roundPrograms (r : Registry) (threads rounds : Nat) (name : String) :
    ∀ program ∈ List.replicate threads (roundRequests name rounds),
      ∀ q ∈ program, q.Closed r := by
  intro program hm
  rw [List.eq_of_mem_replicate hm]
  exact r.closed_roundRequests name rounds

/-- Threads that run to their ends serve programs that need no handles. -/
theorem serves_finish (hr : r.Consistent) {programs : List (List (Request Source))}
    (hp : ∀ program ∈ programs, ∀ q ∈ program, q.Closed r) :
    (Crew.finish r programs).Serves r programs :=
  Crew.serves_run hr (fun program hm q hq => knows_of_closed hr (hp program hm q hq)) _

/-! ### The same programs on twins -/

namespace Twin

theorem type?_eq (ht : Twin extra r r') {q : Request Source} (hq : q.Closed r)
    (asked : List TypeLiteral) : q.type? r asked = q.type? r' asked := by
  cases q with
  | reference name => rfl
  | arrayOf s =>
    cases s with
    | result i => rfl
    | handle h =>
      obtain ⟨kind, rfl⟩ := hq
      have hleft := typeOf?_eq_some_iff.2 (denotes_primitive ht.consistent_left kind)
      have hright := typeOf?_eq_some_iff.2 (denotes_primitive ht.consistent_right kind)
      rw [← ht.primitive_eq] at hright
      simp only [Request.type?, Source.type?, hleft, hright]

theorem demands_eq (ht : Twin extra r r') {program : List (Request Source)}
    (hp : ∀ q ∈ program, q.Closed r) (asked : List TypeLiteral) :
    r.demands program asked = r'.demands program asked := by
  induction program generalizing asked with
  | nil => rfl
  | cons q program ih =>
    obtain ⟨hq, hp⟩ := List.forall_mem_cons.1 hp
    rw [demands, demands, ht.type?_eq hq]
    split
    · exact ih hp _
    · rfl

theorem asked_eq (ht : Twin extra r r') {programs : List (List (Request Source))}
    (hp : ∀ program ∈ programs, ∀ q ∈ program, q.Closed r) :
    r.asked programs = r'.asked programs := by
  have hasked (i k : Nat) : r.asked? programs i k = r'.asked? programs i k := by
    unfold asked?
    cases hi : programs[i]? with
    | none => rfl
    | some program =>
      exact congrArg (·[k]?) (ht.demands_eq (hp program (List.mem_of_getElem? hi)) [])
  simp only [asked, hasked]

theorem typeRequests_eq (ht : Twin extra r r') (t : TypeLiteral) (made : Nat) :
    r.typeRequests t made = r'.typeRequests t made := by
  obtain ⟨e, n⟩ := t
  cases e with
  | primitive kind => simp only [typeRequests, ht.primitive_eq]
  | reference name => rfl

theorem textRequests_eq (ht : Twin extra r r') (texts : List String) (made : Nat) :
    r.textRequests texts made = r'.textRequests texts made := by
  induction texts generalizing made with
  | nil => rfl
  | cons text texts ih => simp only [textRequests, ht.typeRequests_eq, ih]

theorem forall₂_corresponds {results results' : List Handle} {asked : List TypeLiteral}
    (ha : r.Answered results asked) (ha' : r'.Answered results' asked) :
    List.Forall₂ (Corresponds r r') results results' := by
  induction ha generalizing results' with
  | nil => cases ha'; exact .nil
  | cons hd _ ih =>
    cases ha' with
    | cons hd' ha' => exact .cons ⟨_, hd, hd'⟩ (ih ha')

/-- Threads that ask for the same types leave twins behind, with results that correspond. -/
theorem finish (ht : Twin extra r r') {programs : List (List (Request Source))}
    (hp : ∀ program ∈ programs, ∀ q ∈ program, q.Closed r) :
    Twin extra (Crew.finish r programs).registry (Crew.finish r' programs).registry ∧
      List.Forall₂ (fun t t' => List.Forall₂ (Corresponds (Crew.finish r programs).registry
        (Crew.finish r' programs).registry) t.results t'.results)
        (Crew.finish r programs).threads (Crew.finish r' programs).threads := by
  have hserves : (Crew.finish r programs).Serves r programs := serves_finish ht.consistent_left hp
  have hserves' : (Crew.finish r' programs).Serves r' programs :=
    serves_finish ht.consistent_right
      fun program hm q hq => closed_of_id_eq ht.id_eq (hp program hm q hq)
  have hend := Crew.finished_finish r programs
  have hend' := Crew.finished_finish r' programs
  refine ⟨⟨?_, ht.consistent_left.of_grows hserves.grows,
    ht.consistent_right.of_grows hserves'.grows, ?_⟩, ?_⟩
  · rw [hserves.grows.id_eq, hserves'.grows.id_eq, ht.id_eq]
  · rw [hserves.types_eq hend, hserves'.types_eq hend', ht.types_eq, ht.asked_eq hp,
      Set.union_right_comm]
  · refine List.forall₂_iff_get.2 ⟨hserves.length_eq.trans hserves'.length_eq.symm, ?_⟩
    intro i hi hi'
    have hlt : i < programs.length := hserves.length_eq ▸ hi
    have hprogram : programs[i]? = some programs[i] := List.getElem?_eq_getElem hlt
    obtain ⟨t, hti, ha⟩ := hserves.exists_answered hend hprogram
    obtain ⟨t', hti', ha'⟩ := hserves'.exists_answered hend' hprogram
    rw [← ht.demands_eq (hp _ (List.getElem_mem _))] at ha'
    rw [List.get_eq_getElem, List.get_eq_getElem,
      Option.some.inj ((List.getElem?_eq_getElem hi).symm.trans hti),
      Option.some.inj ((List.getElem?_eq_getElem hi').symm.trans hti')]
    exact forall₂_corresponds ha ha'

end Twin

/-! ### Agreement -/

theorem allEqual_eq_of_forall₂ {α β : Type} [DecidableEq α] [DecidableEq β] {R : α → β → Prop}
    (hR : Relator.BiUnique R) {as : List α} {bs : List β} (h : List.Forall₂ R as bs) :
    allEqual as = allEqual bs := by
  cases h with
  | nil => rfl
  | cons hab h =>
    simp only [allEqual]
    induction h with
    | nil => rfl
    | cons hcd _ ih => simp only [List.all_cons, ih, Relator.rel_eq hR hcd hab]

/-- Threads that are not there have no results. -/
theorem forall₂_results {R : Handle → Handle → Prop} {t t' : Option Thread}
    (h : Option.Rel (fun t t' => List.Forall₂ R t.results t'.results) t t') :
    List.Forall₂ R ((t.map (·.results)).getD []) ((t'.map (·.results)).getD []) := by
  cases h with
  | none => exact .nil
  | some h => exact h

namespace Twin

theorem biUnique (ht : Twin extra r r') : Relator.BiUnique (Corresponds r r') :=
  ⟨fun _ _ _ h h' => (ht.eq_iff h h').2 rfl, fun _ _ _ h h' => (ht.eq_iff h h').1 rfl⟩

theorem raceTogether (ht : Twin extra r r') (threads rounds : Nat) (name : String) :
    (r.raceTogether threads rounds name).1 = (r'.raceTogether threads rounds name).1 ∧
      Twin extra (r.raceTogether threads rounds name).2 (r'.raceTogether threads rounds name).2 := by
  obtain ⟨htwin, hresults⟩ := ht.finish (r.closed_roundPrograms threads rounds name)
  refine ⟨?_, htwin⟩
  apply allEqual_eq_of_forall₂ htwin.biUnique.forall₂
  rw [List.forall₂_map_left_iff, List.forall₂_map_right_iff]
  exact hresults

theorem handle?_alike {results results' : List Handle} {s : Source} (ht : Twin extra r r')
    (hresults : List.Forall₂ (Corresponds r r') results results') (hs : s.Closed r) :
    Option.Rel (Corresponds r r') (s.handle? results) (s.handle? results') := by
  cases s with
  | result i => exact optionRel_getElem? hresults i
  | handle h =>
    obtain ⟨kind, rfl⟩ := hs
    have hc := ht.corresponds_primitive kind
    rw [← ht.primitive_eq] at hc
    exact .some hc

theorem found_alike (ht : Twin extra r r') {results results' : List Handle}
    (hresults : List.Forall₂ (Corresponds r r') results results') {sources : List (Option Source)}
    (hs : ∀ s, some s ∈ sources → s.Closed r) :
    List.Forall₂ (Option.Rel (Corresponds r r'))
      (sources.map fun source => source.bind (·.handle? results))
      (sources.map fun source => source.bind (·.handle? results')) := by
  rw [List.forall₂_map_left_iff, List.forall₂_map_right_iff, List.forall₂_same]
  rintro (_ | s) hm
  · exact .none
  · exact ht.handle?_alike hresults (hs s hm)

theorem resolveTogether (ht : Twin extra r r') (threads : Nat) (texts : List String) :
    (r.resolveTogether threads texts).1 = (r'.resolveTogether threads texts).1 ∧
      Twin extra (r.resolveTogether threads texts).2 (r'.resolveTogether threads texts).2 := by
  obtain ⟨htwin, hthreads⟩ := ht.finish (r.closed_textPrograms threads texts)
  simp only [Registry.resolveTogether, ← ht.textRequests_eq]
  refine ⟨?_, htwin⟩
  apply allEqual_eq_of_forall₂ (biUnique_optionRel htwin.biUnique).forall₂
  rw [List.forall₂_map_left_iff, List.forall₂_map_right_iff, List.forall₂_same]
  intro i hi
  apply forall₂_rotateRight
  apply htwin.found_alike
  · exact forall₂_results (optionRel_getElem? hthreads i)
  · intro s hs
    rw [List.getElem?_map, List.getElem?_range (List.mem_range.1 hi)] at hs
    exact closed_source_of_id_eq (Crew.grows_run (Crew.start r _) _).id_eq.symm
      ((r.closed_textRequests _ 0).2 s hs)

end Twin

end Registry

end ArrayTypes
