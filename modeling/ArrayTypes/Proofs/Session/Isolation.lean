import ArrayTypes.Proofs.Session.ForeignHandles
import ArrayTypes.Proofs.Session.SharedCalls

/-! Registries side by side. Of all that happens in a session, a registry shows no more than
the calls made on itself with its own handles: without the other calls it gives the same
answers. The handles that it makes are its own, so that no two registries return the same
one, unless they are handed it and hand it back. Nor does it show that all of them keep their
names in one pool. -/

namespace ArrayTypes

/-- The answer to the call is the handle `h` that it was given. -/
def Call.HandsBack {ι η : Type} (h : ι) : Call ι η → Prop
  | withDimensions element 0 => element = h
  | checkedCast source target _ => source = h ∧ target = h
  | _ => False

/-- What happens in a session whose handles are kept by those who make the calls. -/
inductive Event where
  | newRegistry (config : Config)
  | call (registry : Nat) (call : Call Handle Hierarchy)

/-- The event is no call on another registry than the `q`-th, nor one that is given the handle
of another registry. -/
def Event.concerns (q : Nat) : Event → Bool
  | newRegistry _ => true
  | call i c => i = q && c.handles.all (·.owner = q)

/-- What a session sees of an event in a process. -/
def Interned.Event.inSession? : Interned.Event → Option ArrayTypes.Event
  | intern _ => none
  | newRegistry config => some (.newRegistry config)
  | access i a => some (.call i a.call)

namespace Session

/-- The reply to an event and the session after it. -/
def respond (s : Session) : Event → Reply × Session
  | .newRegistry config => s.step (.newRegistry config)
  | .call i call => s.perform i call

/-- The events with the replies to them. -/
def play (s : Session) : List Event → List (Event × Reply)
  | [] => []
  | first :: rest => (first, (s.respond first).1) :: (s.respond first).2.play rest

/-- Two sessions with equally many registries and the same `q`-th one. -/
structure Agree (q : Nat) (s s' : Session) : Prop where
  length_eq : s.registries.length = s'.registries.length
  getElem?_eq : s.registries[q]? = s'.registries[q]?

variable {s s' : Session} {q : Nat}

/-! ### One event -/

theorem sound_respond (hs : s.Sound) (e : Event) : (s.respond e).2.Sound := by
  cases e with
  | newRegistry config => exact (sound_newRegistry hs config).1
  | call i call => exact (sound_perform hs i call).1

theorem length_registries_perform (s : Session) (i : Nat) (call : Call Handle Hierarchy) :
    (s.perform i call).2.registries.length = s.registries.length := by
  unfold perform
  split
  · rfl
  · split
    · exact List.length_set
    · rfl

theorem getElem?_registries_perform_of_ne (s : Session) {i : Nat} (hi : i ≠ q)
    (call : Call Handle Hierarchy) :
    (s.perform i call).2.registries[q]? = s.registries[q]? := by
  unfold perform
  split
  · rfl
  · split
    · exact List.getElem?_set_ne hi
    · rfl

theorem getElem?_registries_perform_of_foreign (hs : s.Sound) {call : Call Handle Hierarchy}
    {h : Handle} (hh : h ∈ call.handles) (ho : h.owner ≠ q) :
    (s.perform q call).2.registries[q]? = s.registries[q]? := by
  cases hr : s.registries[q]? with
  | none => simp only [perform, hr]
  | some r =>
    cases hp : r.perform call with
    | error f => rw [perform_of_eq_error hr hp, hr]
    | ok p =>
      obtain ⟨a, r'⟩ := p
      rw [← (hs.registry hr).1] at ho
      cases Registry.eq_of_perform_of_foreign (hs.consistent hr) hp hh ho
      rw [perform_of_unchanged hr hp, hr]

/-- What does not concern a registry leaves it as it is. -/
theorem Agree.respond_right (hs : s.Sound) (ha : Agree q s s') {e : Event}
    (he : e.concerns q = false) : Agree q (s.respond e).2 s' := by
  cases e with
  | newRegistry config => cases he
  | call i call =>
    refine ⟨(length_registries_perform s i call).trans ha.length_eq, ?_⟩
    by_cases hi : i = q
    · subst hi
      obtain ⟨h, hh, ho⟩ : ∃ h ∈ call.handles, h.owner ≠ i := by
        simpa [Event.concerns] using he
      exact (getElem?_registries_perform_of_foreign hs hh ho).trans ha.getElem?_eq
    · exact (getElem?_registries_perform_of_ne s hi call).trans ha.getElem?_eq

/-- What concerns a registry is replied to, and changes it, without regard to the others. -/
theorem Agree.respond (ha : Agree q s s') {e : Event} (he : e.concerns q = true) :
    (s.respond e).1 = (s'.respond e).1 ∧ Agree q (s.respond e).2 (s'.respond e).2 := by
  obtain ⟨hl, hq⟩ := ha
  cases e with
  | newRegistry config =>
    refine ⟨congrArg Reply.newRegistry hl, ?_, ?_⟩
    · simp [Session.respond, step, hl]
    · simp only [Session.respond, step, List.getElem?_append, hl, hq]
  | call i c =>
    have hi : i = q := by
      simp only [Event.concerns, Bool.and_eq_true, decide_eq_true_eq] at he
      exact he.1
    subst hi
    have hlength : (s.perform i c).2.registries.length = (s'.perform i c).2.registries.length := by
      rw [length_registries_perform, length_registries_perform, hl]
    cases hr : s.registries[i]? with
    | none =>
      rw [hr] at hq
      simp only [Session.respond, perform, hr, ← hq]
      exact ⟨trivial, hl, by rw [hr, hq]⟩
    | some r =>
      rw [hr] at hq
      cases hp : r.perform c with
      | error f =>
        simp only [Session.respond, perform_of_eq_error hr hp, perform_of_eq_error hq.symm hp]
        exact ⟨trivial, hl, by rw [hr, hq]⟩
      | ok p =>
        obtain ⟨a, r'⟩ := p
        have hi : i < s.registries.length := (List.getElem?_eq_some_iff.1 hr).1
        simp only [Session.respond, perform_of_eq_ok hr hp, perform_of_eq_ok hq.symm hp]
        refine ⟨trivial, by simp [hl], ?_⟩
        simp only
        rw [List.getElem?_set_self hi, List.getElem?_set_self (hl ▸ hi)]

/-! ### Whole runs -/

/-- A registry cannot tell a session from one without the events that do not concern it. -/
theorem filter_play (hs : s.Sound) (ha : Agree q s s') (events : List Event) :
    (s.play events).filter (fun entry => entry.1.concerns q) =
      s'.play (events.filter (Event.concerns q)) := by
  induction events generalizing s s' with
  | nil => rfl
  | cons e events ih =>
    cases he : e.concerns q with
    | false =>
      rw [List.filter_cons_of_neg (by simp [he]), play, List.filter_cons_of_neg (by simp [he])]
      exact ih (sound_respond hs e) (ha.respond_right hs he)
    | true =>
      obtain ⟨hreply, hnext⟩ := ha.respond he
      simp only [play, List.filter_cons, he, if_true, hreply]
      exact congrArg _ (ih (sound_respond hs e) hnext)

/-! ### Handles of different registries -/

/-- The handle in an answer is the registry's own, unless the call hands back a foreign one. -/
theorem owner_or_handsBack_of_perform {r r' : Registry} (hr : r.Consistent)
    {call : Call Handle Hierarchy} {a : Answer} (ha : r.perform call = .ok (a, r')) {h : Handle}
    (hh : a.handle? = some h) : h.owner = r.id ∨ call.HandsBack h := by
  rcases Registry.mem_handles_or_exists_get_of_perform hr ha hh with hm | ⟨d, hd⟩
  · by_contra hn
    obtain ⟨ho, hback⟩ := not_or.1 hn
    have hget := Registry.get_of_foreign ho
    cases call with
    | arrayOf c =>
      obtain ⟨g, hg, -⟩ := Registry.map_made_eq_ok_iff.1 ha
      cases List.mem_singleton.1 hm
      exact ho (Registry.owner_of_arrayOf hr hg)
    | withDimensions e n =>
      obtain ⟨g, hg, -⟩ := Registry.map_made_eq_ok_iff.1 ha
      cases List.mem_singleton.1 hm
      cases n with
      | zero => exact hback rfl
      | succ n => exact ho (Registry.owner_of_withDimensions hr hg)
    | inspect query g =>
      cases List.mem_singleton.1 hm
      rw [Registry.perform, Registry.inspect_of_get_eq_error hget] at ha
      cases ha
    | checkedCast source target H =>
      obtain ⟨g, hg, hm⟩ := map_eq_ok_iff.1 ha
      cases hm
      cases hh
      cases Registry.eq_of_checkedCast hg
      have hne : source ≠ h := fun he => hback ⟨he, rfl⟩
      obtain ⟨b, hb, -⟩ := bind_eq_ok_iff.1 hg
      obtain ⟨j, hj, -⟩ := bind_eq_ok_iff.1 hb
      obtain ⟨-, d, -, hd⟩ := Registry.exists_get_of_judge hne hj
      exact ho (Registry.owner_of_get_eq_ok hd)
    | isNamed | assignable | checkStore =>
      obtain ⟨c, -, hm⟩ := map_eq_ok_iff.1 ha
      cases hm
      cases hh
    | primitive | primitiveArray | reference | resolve | forName | count | resolveTogether
    | raceTogether => cases hm
  · exact .inl ((Registry.owner_of_get_eq_ok hd).trans (Registry.grows_of_perform ha).id_eq)

/-- Every reply to a call with a handle in it: the handle is the registry's own or handed back. -/
theorem owner_or_handsBack_of_mem_play (hs : s.Sound) {events : List Event} {i : Nat}
    {call : Call Handle Hierarchy} {reply : Reply} (hm : (.call i call, reply) ∈ s.play events)
    {h : Handle} (hh : reply.handle? = some h) : h.owner = i ∨ call.HandsBack h := by
  induction events generalizing s with
  | nil => cases hm
  | cons e events ih =>
    rcases List.mem_cons.1 hm with he | hm
    · obtain ⟨rfl, rfl⟩ := Prod.mk.inj he
      simp only [Session.respond] at hh
      cases hr : s.registries[i]? with
      | none =>
        simp only [perform, hr] at hh
        cases hh
      | some r =>
        cases hp : r.perform call with
        | error f =>
          rw [perform_of_eq_error hr hp] at hh
          cases hh
        | ok p =>
          obtain ⟨a, r'⟩ := p
          rw [perform_of_eq_ok hr hp] at hh
          rw [← (hs.registry hr).1]
          exact owner_or_handsBack_of_perform (hs.consistent hr) hp hh
    · exact ih (sound_respond hs e) hm

/-! ### Names in common -/

/-- A process replies as the session does in which every registry holds the texts of its own
names, whatever else puts names into the pool. -/
theorem replies_eq_play {pr : Interned.Process} (h : pr.Reads s) (events : List Interned.Event) :
    pr.replies events =
      some ((s.play (events.filterMap Interned.Event.inSession?)).map Prod.snd) := by
  induction events generalizing pr s with
  | nil => rfl
  | cons e events ih =>
    cases e with
    | intern name =>
      have hreply : pr.respond (.intern name) =
          some (none, { pr with pool := (pr.pool.intern name).2 }) := rfl
      rw [Interned.Process.replies_cons hreply (ih (h.intern name))]
      rfl
    | newRegistry config =>
      obtain ⟨pr', hpr, h'⟩ := h.exists_addRegistry config
      have hreply : pr.respond (.newRegistry config) =
          some (some (s.step (.newRegistry config)).1, pr') := by
        simp [Interned.Process.respond, hpr, h.stores.length_eq, step]
      rw [Interned.Process.replies_cons hreply (ih h')]
      rfl
    | access i a =>
      obtain ⟨pr', hpr, h'⟩ := h.exists_access i a
      rw [Interned.Process.replies_cons hpr (ih h')]
      rfl

/-- Whatever happens in a session, what concerns one registry is replied to as if nothing
else had happened. Calls on two registries return the same handle only if one of them was given
it, as the handle of another registry, and hands it back. A pool that all registries keep their
names in, and that others add to, does not show in the replies. -/
theorem registries_are_isolated (configs : List Config) (hierarchies : List SessionHierarchy)
    (events : List Event) :
    let s := start configs hierarchies
    (∀ q, (s.play events).filter (fun entry => entry.1.concerns q) =
      s.play (events.filter (Event.concerns q))) ∧
    (∀ i j c d a b g h, i ≠ j → (.call i c, a) ∈ s.play events → (.call j d, b) ∈ s.play events →
      a.handle? = some g → b.handle? = some h → g = h →
        c.HandsBack g ∧ g.owner ≠ i ∨ d.HandsBack h ∧ h.owner ≠ j) ∧
    (∀ inProcess : List Interned.Event,
      (Interned.Process.start configs).bind (·.replies inProcess) =
        some ((s.play (inProcess.filterMap Interned.Event.inSession?)).map Prod.snd)) := by
  intro s
  have hs : s.Sound := sound_start configs hierarchies
  refine ⟨fun q => filter_play hs ⟨rfl, rfl⟩ events, ?_, ?_⟩
  · intro i j c d a b g h hij hc hd hg hh heq
    subst heq
    by_cases hi : g.owner = i
    · have hj : g.owner ≠ j := fun hj => hij (hi.symm.trans hj)
      exact .inr ⟨(owner_or_handsBack_of_mem_play hs hd hh).resolve_left hj, hj⟩
    · exact .inl ⟨(owner_or_handsBack_of_mem_play hs hc hg).resolve_left hi, hi⟩
  · intro inProcess
    obtain ⟨pr, hpr, h⟩ := Interned.Process.Reads.exists_start configs hierarchies
    rw [hpr]
    exact replies_eq_play h inProcess

/-- A registry that is asked for no level at all of another's handle; meanwhile the first one
answers as it would alone, and in a process that makes other names too. -/
theorem int_is_handed_back_as_foreign :
    let s := start [{}, {}] []
    let asked : Call Handle Hierarchy := .primitive .int
    let passed : Call Handle Hierarchy := .withDimensions ⟨0, 4⟩ 0
    let int : Reply := .answer (.handle ⟨0, 4⟩)
    (.call 0 asked, int) ∈ s.play [.call 0 asked, .call 1 passed] ∧
    (.call 1 passed, int) ∈ s.play [.call 0 asked, .call 1 passed] ∧
    passed.HandsBack (⟨0, 4⟩ : Handle) ∧
    s.play [.call 0 asked] = [(.call 0 asked, int)] ∧
    (Interned.Process.start [{}, {}]).bind
      (·.replies [.intern "Dog", .access 0 (.primitive .int)]) = some [int] := by
  intro s asked passed int
  obtain ⟨halone, hdistinct, hprocess⟩ :=
    registries_are_isolated [{}, {}] [] [.call 0 asked, .call 1 passed]
  have made : (.call 0 asked, int) ∈ s.play [.call 0 asked, .call 1 passed] :=
    List.mem_cons_self
  have handedBack : (.call 1 passed, int) ∈ s.play [.call 0 asked, .call 1 passed] :=
    List.mem_cons_of_mem _ List.mem_cons_self
  have hback := hdistinct 0 1 asked passed int int _ _ (by decide) made handedBack rfl rfl rfl
  refine ⟨made, handedBack, ?_, ?_, ?_⟩
  · exact (hback.resolve_left fun h => h.1).1
  · exact (halone 0).symm
  · exact hprocess [.intern "Dog", .access 0 (.primitive .int)]

/-- No level at all of a foreign handle is that handle, so that two registries return it. -/
theorem returned_handles_may_agree :
    let played := (start [{}, {}] []).play
      [.call 0 (.primitive .int), .call 1 (.withDimensions ⟨0, 4⟩ 0)]
    ¬∀ i j c d a b g h, i ≠ j → (.call i c, a) ∈ played → (.call j d, b) ∈ played →
      a.handle? = some g → b.handle? = some h → g ≠ h := by
  intro played hne
  have made : (.call 0 (.primitive .int), .answer (.handle ⟨0, 4⟩)) ∈ played := List.mem_cons_self
  have handedBack : (.call 1 (.withDimensions ⟨0, 4⟩ 0), .answer (.handle ⟨0, 4⟩)) ∈ played :=
    List.mem_cons_of_mem _ List.mem_cons_self
  exact hne 0 1 _ _ _ _ _ _ (by decide) made handedBack rfl rfl rfl

end Session

end ArrayTypes
