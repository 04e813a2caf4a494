import ArrayTypes.Proofs.Concurrency.WholeCall
import ArrayTypes.Proofs.Registry.Denotation

/-! What programs ask for. The type that a request asks for can be read off its program
and the registry that the program starts from, whatever is created in the meantime. The
request is answered with a handle of that type, whoever created it; a request for an array
of nothing asks for no type and fails. A program that resolves types asks for what is on the
way to them, level by level. -/

namespace ArrayTypes

/-! ### What a program asks for -/

/-- The type of a component, when the earlier requests of the program asked for `asked`. -/
def Source.type? (r : Registry) (asked : List TypeLiteral) : Source → Option TypeLiteral
  | handle h => r.typeOf? h
  | result i => asked[i]?

/-- The type that a request asks for, when the earlier ones of its program asked for
`asked`. -/
def Request.type? (r : Registry) (asked : List TypeLiteral) : Request Source → Option TypeLiteral
  | reference name => some ⟨.reference name, 0⟩
  | arrayOf component => do
    let t ← component.type? r asked
    return ⟨t.element, t.dimensions + 1⟩

namespace Registry

/-- The types that the requests of a program ask for, after `asked`, up to the first one
that has no component. -/
def demands (r : Registry) : List (Request Source) → List TypeLiteral → List TypeLiteral
  | [], asked => asked
  | q :: program, asked =>
    match q.type? r asked with
    | some t => r.demands program (asked ++ [t])
    | none => asked

/-- The type that the `k`-th request of the `i`-th program asks for. -/
def asked? (r : Registry) (programs : List (List (Request Source))) (i k : Nat) :
    Option TypeLiteral := do
  (r.demands (← programs[i]?) [])[k]?

/-- The types that some request asks for. -/
def asked (r : Registry) (programs : List (List (Request Source))) : Set TypeLiteral :=
  {t | ∃ i k, r.asked? programs i k = some t}

/-- The programs of threads that resolve the same texts, each starting with another one. -/
def textPrograms (r : Registry) (threads : Nat) (texts : List String) :
    List (List (Request Source)) :=
  ((List.range threads).map fun i => r.textRequests (texts.rotateLeft i) 0).map (·.1)

/-- A request that names a handle of the registry names one that is there, since handles
come from earlier calls alone. -/
def Knows (r : Registry) : Request Source → Prop
  | .arrayOf (.handle h) => h.owner = r.id → h.slot < r.count
  | _ => True

instance (r : Registry) : DecidablePred r.Knows
  | .arrayOf (.handle h) => inferInstanceAs (Decidable (h.owner = r.id → h.slot < r.count))
  | .arrayOf (.result _) => inferInstanceAs (Decidable True)
  | .reference _ => inferInstanceAs (Decidable True)

end Registry

/-- The types that are asked for on the way to a type, the type itself last. Primitives are
never asked for. -/
def TypeLiteral.route : TypeLiteral → List TypeLiteral
  | ⟨.primitive kind, n⟩ => (List.range n).map fun i => ⟨.primitive kind, i + 1⟩
  | ⟨.reference name, n⟩ => (List.range (n + 1)).map fun i => ⟨.reference name, i⟩

/-- The types that are asked for on the way to those of a set. -/
def TypeLiteral.routes (types : Set TypeLiteral) : Set TypeLiteral :=
  {t | ∃ u ∈ types, t ∈ u.route}

namespace Registry

variable {r₀ r r' : Registry}

theorem mem_asked_iff {programs : List (List (Request Source))} {t : TypeLiteral} :
    t ∈ r.asked programs ↔ ∃ program ∈ programs, t ∈ r.demands program [] := by
  constructor
  · rintro ⟨i, k, ht⟩
    obtain ⟨program, hp, hk⟩ := Option.bind_eq_some_iff.1 ht
    exact ⟨program, List.mem_of_getElem? hp, List.mem_of_getElem? hk⟩
  · rintro ⟨program, hp, ht⟩
    obtain ⟨i, hi⟩ := List.mem_iff_getElem?.1 hp
    obtain ⟨k, hk⟩ := List.mem_iff_getElem?.1 ht
    exact ⟨i, k, Option.bind_eq_some_iff.2 ⟨program, hi, hk⟩⟩

theorem mem_textPrograms_iff {threads : Nat} {texts : List String}
    {program : List (Request Source)} :
    program ∈ r.textPrograms threads texts ↔
      ∃ i < threads, (r.textRequests (texts.rotateLeft i) 0).1 = program := by
  simp [textPrograms]

theorem prefix_demands (r : Registry) (program : List (Request Source))
    (asked : List TypeLiteral) : asked <+: r.demands program asked := by
  induction program generalizing asked with
  | nil => exact List.prefix_rfl
  | cons q program ih =>
    unfold demands
    split
    next t _ => exact (List.prefix_append asked [t]).trans (ih _)
    · exact List.prefix_rfl

/-! ### One request -/

/-- The earlier requests of a program were answered with handles of the types they asked
for. -/
abbrev Answered (r : Registry) (results : List Handle) (asked : List TypeLiteral) : Prop :=
  List.Forall₂ r.Denotes results asked

theorem Answered.grows {results : List Handle} {asked : List TypeLiteral}
    (h : r.Answered results asked) (hg : r.Grows r') : r'.Answered results asked :=
  h.imp fun _ _ ht => ht.grows hg

theorem Answered.append {results : List Handle} {asked : List TypeLiteral}
    (h : r.Answered results asked) {g : Handle} {t : TypeLiteral} (hg : r.Denotes g t) :
    r.Answered (results ++ [g]) (asked ++ [t]) :=
  List.rel_append h (.cons hg .nil)

theorem Answered.getElem? {results : List Handle} {asked : List TypeLiteral}
    (h : r.Answered results asked) (i : Nat) :
    results[i]? = none ∧ asked[i]? = none ∨
      ∃ g t, results[i]? = some g ∧ asked[i]? = some t ∧ r.Denotes g t := by
  induction h generalizing i with
  | nil => exact .inl ⟨rfl, rfl⟩
  | cons hd _ ih =>
    cases i with
    | zero => exact .inr ⟨_, _, rfl, rfl, hd⟩
    | succ i => exact ih i

/-- What is known of a component tells the handle and its type. -/
theorem exists_handle?_of_type? (hg : r₀.Grows r) {results : List Handle}
    {asked : List TypeLiteral} (ha : r.Answered results asked) {s : Source} {t : TypeLiteral}
    (ht : s.type? r₀ asked = some t) : ∃ c, s.handle? results = some c ∧ r.Denotes c t := by
  cases s with
  | handle c =>
    exact ⟨c, rfl, (typeOf?_eq_some_iff.1 ht).grows hg⟩
  | result i =>
    rcases ha.getElem? i with ⟨-, hn⟩ | ⟨g, u, hgi, hu, hd⟩
    · cases hn.symm.trans ht
    · cases hu.symm.trans ht
      exact ⟨g, hgi, hd⟩

/-- A component of no type is no descriptor, now or later. -/
theorem get_ne_ok_of_type?_eq_none (h₀ : r₀.Consistent) (hg : r₀.Grows r)
    {results : List Handle} {asked : List TypeLiteral} (ha : r.Answered results asked)
    {s : Source} (hk : r₀.Knows (.arrayOf s)) (ht : s.type? r₀ asked = none) {c : Handle}
    (hc : s.handle? results = some c) (d : Descriptor) : r.get c ≠ .ok d := by
  intro hd
  cases s with
  | handle h =>
    cases hc
    have ho : c.owner = r₀.id := (get_eq_ok_iff.1 hd).1.trans hg.id_eq
    obtain ⟨e, he⟩ := get_of_slot_lt (hk ho)
    rw [← ho] at he
    obtain ⟨u, hu⟩ := h₀.exists_denotes he
    cases ht.symm.trans (typeOf?_eq_some_iff.2 hu)
  | result i =>
    rcases ha.getElem? i with ⟨hn, -⟩ | ⟨g, u, -, hu, -⟩
    · cases hn.symm.trans hc
    · cases hu.symm.trans ht

/-- A request that asks for a type gets the handle of that type. -/
theorem exists_obtain (h₀ : r₀.Consistent) (hg : r₀.Grows r) {results : List Handle}
    {asked : List TypeLiteral} (ha : r.Answered results asked) {q : Request Source}
    {t : TypeLiteral} (ht : q.type? r₀ asked = some t) :
    ∃ q' h r', q.handles? results = some q' ∧ r.obtain q' = .ok (h, r') ∧ r'.Denotes h t := by
  have hr : r.Consistent := h₀.of_grows hg
  cases q with
  | reference name =>
    cases ht
    exact ⟨_, _, _, rfl, rfl, denotes_reference hr name⟩
  | arrayOf s =>
    obtain ⟨u, hu, htu⟩ := Option.bind_eq_some_iff.1 ht
    cases htu
    obtain ⟨c, hc, hcu⟩ := exists_handle?_of_type? hg ha hu
    obtain ⟨d, hd⟩ := hcu.exists_get
    obtain ⟨h, r', hh⟩ := arrayOf_eq_ok_of_get hd
    refine ⟨.arrayOf c, h, r', ?_, hh, denotes_of_arrayOf hr hh hcu⟩
    rw [Request.handles?, hc]
    rfl

/-- A request that asks for no type fails. -/
theorem obtain_eq_error (h₀ : r₀.Consistent) (hg : r₀.Grows r) {results : List Handle}
    {asked : List TypeLiteral} (ha : r.Answered results asked) {q : Request Source}
    (hk : r₀.Knows q) (ht : q.type? r₀ asked = none) {q' : Request Handle}
    (hq : q.handles? results = some q') : ∃ e, r.obtain q' = .error e := by
  cases q with
  | reference name => cases ht
  | arrayOf s =>
    obtain ⟨c, hc, rfl⟩ := Option.map_eq_some_iff.1 hq
    have hs : s.type? r₀ asked = none := by
      cases hs : s.type? r₀ asked with
      | none => rfl
      | some u => rw [Request.type?, hs] at ht; cases ht
    cases hf : r.get c with
    | ok d => exact absurd hf (get_ne_ok_of_type?_eq_none h₀ hg ha hk hs hc d)
    | error f => exact ⟨f, arrayOf_eq_error_of_get (h₀.of_grows hg) hf⟩

/-! ### Programs that resolve -/

theorem type?_arrayOf {s : Source} {asked : List TypeLiteral} {e : Element} {m : Nat}
    (hs : s.type? r asked = some ⟨e, m⟩) :
    (Request.arrayOf s).type? r asked = some ⟨e, m + 1⟩ := by
  rw [Request.type?, hs]
  rfl

theorem type?_result_length (r : Registry) (asked : List TypeLiteral) (t : TypeLiteral) :
    (Source.result asked.length).type? r (asked ++ [t]) = some t := by
  simp [Source.type?]

theorem type?_primitive (hr : r.Consistent) (kind : Kind) (asked : List TypeLiteral) :
    (Source.handle (r.primitive kind)).type? r asked = some ⟨.primitive kind, 0⟩ :=
  typeOf?_eq_some_iff.2 (denotes_primitive hr kind)

/-- A program that is answered to its end is followed by what comes after it. -/
theorem demands_append {program : List (Request Source)} {asked : List TypeLiteral}
    (hlen : (r.demands program asked).length = asked.length + program.length)
    (rest : List (Request Source)) :
    r.demands (program ++ rest) asked = r.demands rest (r.demands program asked) := by
  induction program generalizing asked with
  | nil => rfl
  | cons q program ih =>
    simp only [List.cons_append, demands] at hlen ⊢
    cases ht : q.type? r asked with
    | none =>
      rw [ht] at hlen
      simp at hlen
    | some t =>
      rw [ht] at hlen
      apply ih
      rw [hlen, List.length_append, List.length_cons, List.length_singleton]
      omega

/-- Each array request asks for one level more. -/
theorem demands_levelRequests {s : Source} {asked : List TypeLiteral} {e : Element} {m : Nat}
    (hs : s.type? r asked = some ⟨e, m⟩) (n : Nat) :
    r.demands (levelRequests s asked.length n).1 asked =
      asked ++ (List.range n).map fun i => ⟨e, m + 1 + i⟩ := by
  induction n generalizing s asked m with
  | zero => simp [levelRequests, demands]
  | succ n ih =>
    have h := ih (type?_result_length r asked ⟨e, m + 1⟩)
    rw [List.length_append, List.length_singleton] at h
    have hlevel : (fun i => (⟨e, m + 1 + 1 + i⟩ : TypeLiteral)) =
        (fun i => ⟨e, m + 1 + i⟩) ∘ Nat.succ := by
      funext i
      exact congrArg (TypeLiteral.mk e) (Nat.succ_add_eq_add_succ (m + 1) i)
    simp only [levelRequests, demands, type?_arrayOf hs]
    rw [h, List.range_succ_eq_map, List.append_assoc, List.map_cons, List.map_map, hlevel]
    rfl

theorem length_typeRequests (r : Registry) (t : TypeLiteral) (made : Nat) :
    (r.typeRequests t made).1.length = t.route.length := by
  obtain ⟨e, n⟩ := t
  cases e with
  | primitive kind => simp [typeRequests, length_levelRequests, TypeLiteral.route]
  | reference name => simp [typeRequests, length_levelRequests, TypeLiteral.route]

theorem demands_typeRequests (hr : r.Consistent) (t : TypeLiteral) (asked : List TypeLiteral) :
    r.demands (r.typeRequests t asked.length).1 asked = asked ++ t.route := by
  obtain ⟨e, n⟩ := t
  cases e with
  | primitive kind =>
    rw [typeRequests, demands_levelRequests (type?_primitive hr kind asked)]
    simp [TypeLiteral.route, Nat.add_comm]
  | reference name =>
    have h := demands_levelRequests (type?_result_length r asked ⟨.reference name, 0⟩) n
    rw [List.length_append, List.length_singleton] at h
    simp only [typeRequests, demands, Request.type?]
    rw [h, TypeLiteral.route, List.range_succ_eq_map]
    simp [Nat.add_comm]

/-- The texts that can be read are resolved one after the other. -/
theorem demands_textRequests (hr : r.Consistent) (texts : List String)
    (asked : List TypeLiteral) :
    r.demands (r.textRequests texts asked.length).1 asked =
      asked ++ (texts.filterMap fun text => (TypeLiteral.parse text).toOption).flatMap
        TypeLiteral.route := by
  induction texts generalizing asked with
  | nil => simp [textRequests, demands]
  | cons text texts ih =>
    simp only [textRequests]
    cases hp : TypeLiteral.parse text with
    | error cause => simp [hp, Except.toOption, ih]
    | ok t =>
      have hown := demands_typeRequests hr t asked
      have hrest := ih (asked ++ t.route)
      rw [List.length_append, ← length_typeRequests r t asked.length] at hrest
      simp only
      rw [demands_append, hown, hrest]
      · simp [hp, Except.toOption]
      · rw [hown, List.length_append, length_typeRequests]

/-- A round resolves the class with two levels. -/
theorem roundRequests_succ (r : Registry) (name : String) (rounds : Nat) :
    roundRequests name (rounds + 1) = roundRequests name rounds ++
      (r.typeRequests ⟨.reference (name ++ toString rounds), 2⟩ (3 * rounds)).1 := by
  rw [roundRequests, List.range_succ, List.flatMap_append, List.flatMap_singleton]
  rfl

theorem length_roundRequests (name : String) (rounds : Nat) :
    (roundRequests name rounds).length = 3 * rounds := by
  simp [roundRequests, List.length_flatMap, Nat.mul_comm]

theorem demands_roundRequests (hr : r.Consistent) (name : String) (rounds : Nat) :
    r.demands (roundRequests name rounds) [] =
      ((List.range rounds).map fun i => ⟨.reference (name ++ toString i), 2⟩).flatMap
        TypeLiteral.route := by
  induction rounds with
  | zero => rfl
  | succ rounds ih =>
    have hlen : (r.demands (roundRequests name rounds) []).length = 3 * rounds := by
      rw [ih]
      simp [List.length_flatMap, TypeLiteral.route, Function.comp_def, Nat.mul_comm]
    have hround := demands_typeRequests hr ⟨.reference (name ++ toString rounds), 2⟩
      (r.demands (roundRequests name rounds) [])
    rw [hlen] at hround
    rw [roundRequests_succ r, demands_append, hround, ih, List.range_succ, List.map_append,
      List.flatMap_append, List.map_singleton, List.flatMap_singleton]
    rw [hlen, length_roundRequests, List.length_nil, Nat.zero_add]

theorem mem_rotateLeft {α : Type} {as : List α} {a : α} (i : Nat) :
    a ∈ as.rotateLeft i ↔ a ∈ as := by
  by_cases h : as.length ≤ 1
  · simp only [List.rotateLeft, if_pos h]
  · simp only [List.rotateLeft, if_neg h]
    rw [List.mem_append, or_comm, ← List.mem_append, List.take_append_drop]

/-- Every thread asks for the types of all texts. -/
theorem asked_textPrograms (hr : r.Consistent) (threads : Nat) (texts : List String) :
    r.asked (r.textPrograms threads texts) =
      TypeLiteral.routes {u | 0 < threads ∧ ∃ text ∈ texts, TypeLiteral.parse text = .ok u} := by
  have hdemands (i : Nat) (t : TypeLiteral) :
      t ∈ r.demands (r.textRequests (texts.rotateLeft i) 0).1 [] ↔
        ∃ u, (∃ text ∈ texts, TypeLiteral.parse text = .ok u) ∧ t ∈ u.route := by
    have h := demands_textRequests hr (texts.rotateLeft i) []
    rw [List.length_nil, List.nil_append] at h
    simp only [h, List.mem_flatMap, List.mem_filterMap, mem_rotateLeft,
      toOption_eq_some_iff]
  ext t
  rw [mem_asked_iff]
  constructor
  · rintro ⟨program, hp, ht⟩
    obtain ⟨i, hi, rfl⟩ := mem_textPrograms_iff.1 hp
    obtain ⟨u, hu, ht⟩ := (hdemands i t).1 ht
    exact ⟨u, ⟨Nat.zero_lt_of_lt hi, hu⟩, ht⟩
  · rintro ⟨u, ⟨hpos, hu⟩, ht⟩
    exact ⟨_, mem_textPrograms_iff.2 ⟨0, hpos, rfl⟩, (hdemands 0 t).2 ⟨u, hu, ht⟩⟩

theorem asked_roundRequests (hr : r.Consistent) (threads rounds : Nat) (name : String) :
    r.asked (List.replicate threads (roundRequests name rounds)) =
      TypeLiteral.routes
        {u | 0 < threads ∧ ∃ i < rounds, u = ⟨.reference (name ++ toString i), 2⟩} := by
  have hdemands (t : TypeLiteral) : t ∈ r.demands (roundRequests name rounds) [] ↔
      ∃ u : TypeLiteral,
        (∃ i < rounds, u = ⟨.reference (name ++ toString i), 2⟩) ∧ t ∈ u.route := by
    rw [demands_roundRequests hr, List.mem_flatMap]
    simp only [List.mem_map, List.mem_range, eq_comm]
  ext t
  rw [mem_asked_iff]
  constructor
  · rintro ⟨program, hp, ht⟩
    obtain ⟨hpos, rfl⟩ := List.mem_replicate.1 hp
    obtain ⟨u, hu, ht⟩ := (hdemands t).1 ht
    exact ⟨u, ⟨Nat.pos_of_ne_zero hpos, hu⟩, ht⟩
  · rintro ⟨u, ⟨hpos, hu⟩, ht⟩
    exact ⟨_, List.mem_replicate.2 ⟨hpos.ne', rfl⟩, (hdemands t).2 ⟨u, hu, ht⟩⟩

end Registry

end ArrayTypes
