import ArrayTypes.Proofs.Concurrency.Demand
import ArrayTypes.Proofs.Concurrency.WholeCall

/-! Requests of many threads. However their steps interleave, every request is answered
with the one handle of the type that it asks for, and when all threads have come to their
ends the registry holds the types it started with and those that were asked for, no
others. All this is kept by whole requests, and an interleaved run amounts to these. -/

namespace ArrayTypes

variable {r₀ r : Registry}

/-! ### One thread -/

namespace Thread

variable {program : List (Request Source)} {t : Thread}

/-- The thread is on its way through the program: what it asked for so far was answered,
and with what is pending it asks for all that the program asks for. -/
def Follows (t : Thread) (r₀ r : Registry) (program : List (Request Source)) : Prop :=
  ∃ asked, r.Answered t.results asked ∧ r₀.demands t.pending asked = r₀.demands program [] ∧
    t.pending ⊆ program

theorem follows_start (r : Registry) (program : List (Request Source)) :
    (start program).Follows r r program :=
  ⟨[], .nil, rfl, fun _ hq => hq⟩

theorem Follows.grows {r' : Registry} (ht : t.Follows r₀ r program) (hg : r.Grows r') :
    t.Follows r₀ r' program := by
  obtain ⟨asked, ha, hd, hp⟩ := ht
  exact ⟨asked, ha.grows hg, hd, hp⟩

/-- A whole request keeps the thread on its way, and creates no type that the program does
not ask for. -/
theorem Follows.call (h₀ : r₀.Consistent) (hg : r₀.Grows r) (hk : ∀ q ∈ program, r₀.Knows q)
    (ht : t.Follows r₀ r program) :
    r.Grows (t.call r).1 ∧ (t.call r).2.Follows r₀ (t.call r).1 program ∧
      ∀ u ∈ (t.call r).1.types, u ∈ r.types ∨ u ∈ r₀.demands program [] := by
  obtain ⟨asked, ha, hd, hsub⟩ := ht
  obtain ⟨pending, results, missed⟩ := t
  cases pending with
  | nil => exact ⟨.refl r, ⟨asked, ha, hd, hsub⟩, fun u hu => .inl hu⟩
  | cons q rest =>
    simp only [Thread.call, List.head?_cons]
    simp only [Registry.demands] at hd
    cases htype : q.type? r₀ asked with
    | some u =>
      rw [htype] at hd
      obtain ⟨q', h, r', hq, ho, hh⟩ := Registry.exists_obtain h₀ hg ha htype
      simp only [hq, ho]
      have hg' : r.Grows r' := Registry.grows_of_obtain ho
      refine ⟨hg', ⟨asked ++ [u], (ha.grows hg').append hh, hd, ?_⟩, ?_⟩
      · exact fun p hp => hsub (List.mem_cons_of_mem q hp)
      · intro v hv
        rw [Registry.types_of_obtain (h₀.of_grows hg) ho hh] at hv
        rcases hv with rfl | hv
        · refine .inr (hd ▸ (Registry.prefix_demands r₀ rest _).subset ?_)
          exact List.mem_append_right asked (List.mem_singleton_self v)
        · exact .inl hv
    | none =>
      rw [htype] at hd
      have hstop : (Thread.mk (q :: rest) results missed).stop.Follows r₀ r program :=
        ⟨asked, ha, hd, List.nil_subset program⟩
      cases hq : q.handles? results with
      | none => exact ⟨.refl r, hstop, fun u hu => .inl hu⟩
      | some q' =>
        have hkq : r₀.Knows q := hk q (hsub List.mem_cons_self)
        obtain ⟨e, he⟩ := Registry.obtain_eq_error h₀ hg ha hkq htype hq
        simp only [he]
        exact ⟨.refl r, hstop, fun u hu => .inl hu⟩

end Thread

/-! ### All threads -/

namespace Crew

variable {programs : List (List (Request Source))} {c : Crew}

/-- What the `k`-th request of the `i`-th thread returned. -/
def result? (c : Crew) (i k : Nat) : Option Handle := do
  (← c.threads[i]?).results[k]?

/-- The threads are on their way through the programs, and the registry holds no types but
those of the start and those that the programs ask for. -/
structure Serves (c : Crew) (r₀ : Registry) (programs : List (List (Request Source))) :
    Prop where
  grows : r₀.Grows c.registry
  length_eq : c.threads.length = programs.length
  follows : ∀ {i : Nat} {t : Thread} {program : List (Request Source)},
    c.threads[i]? = some t → programs[i]? = some program → t.Follows r₀ c.registry program
  mem_types : ∀ t ∈ c.registry.types, t ∈ r₀.types ∨ t ∈ r₀.asked programs

theorem serves_start (r : Registry) (programs : List (List (Request Source))) :
    (start r programs).Serves r programs where
  grows := .refl r
  length_eq := List.length_map _
  follows {i t program} ht hp := by
    simp only [start, List.getElem?_map, hp, Option.map_some, Option.some.injEq] at ht
    subst ht
    exact Thread.follows_start r program
  mem_types _ ht := .inl ht

theorem Serves.call (h₀ : r₀.Consistent) (hk : ∀ program ∈ programs, ∀ q ∈ program, r₀.Knows q)
    (hc : c.Serves r₀ programs) (i : Nat) : (c.call i).Serves r₀ programs := by
  unfold Crew.call
  cases ht : c.threads[i]? with
  | none => exact hc
  | some t =>
    have hi : i < c.threads.length := (List.getElem?_eq_some_iff.1 ht).1
    have hlt : i < programs.length := hc.length_eq ▸ hi
    have hp : programs[i]? = some programs[i] := List.getElem?_eq_getElem hlt
    obtain ⟨hg, hf, htypes⟩ := (hc.follows ht hp).call h₀ hc.grows
      (hk _ (List.mem_of_getElem? hp))
    refine ⟨hc.grows.trans hg, ?_, ?_, ?_⟩
    · rw [List.length_set, hc.length_eq]
    · intro j t' program ht' hp'
      by_cases hj : i = j
      · subst hj
        rw [List.getElem?_set_self hi] at ht'
        cases ht'
        cases hp.symm.trans hp'
        exact hf
      · rw [List.getElem?_set_ne hj] at ht'
        exact (hc.follows ht' hp').grows hg
    · intro u hu
      rcases htypes u hu with hu | hu
      · exact hc.mem_types u hu
      · exact .inr (Registry.mem_asked_iff.2 ⟨_, List.mem_of_getElem? hp, hu⟩)

theorem serves_calls (h₀ : r₀.Consistent) (hk : ∀ program ∈ programs, ∀ q ∈ program, r₀.Knows q)
    (hc : c.Serves r₀ programs) (order : List Nat) : (c.calls order).Serves r₀ programs := by
  induction order generalizing c with
  | nil => exact hc
  | cons i order ih => exact ih (hc.call h₀ hk i)

theorem serves_of_settle (hc : c.settle.Serves r₀ programs) : c.Serves r₀ programs where
  grows := hc.grows
  length_eq := (List.length_map Thread.settle).symm.trans hc.length_eq
  follows {i t program} ht hp := by
    have hs : c.settle.threads[i]? = some t.settle := by simp [settle, ht]
    have hf : t.settle.Follows r₀ c.registry program := hc.follows hs hp
    exact hf
  mem_types := hc.mem_types

/-- Interleaved steps serve the programs as whole requests do. -/
theorem serves_run (h₀ : r₀.Consistent) (hk : ∀ program ∈ programs, ∀ q ∈ program, r₀.Knows q)
    (schedule : List Nat) : ((start r₀ programs).run schedule).Serves r₀ programs := by
  refine serves_of_settle ?_
  rw [settle_run, settle_start]
  exact serves_calls h₀ hk (serves_start r₀ programs) _

/-! ### What the requests got -/

/-- What a request returned is of the type it asks for. -/
theorem Serves.denotes (hc : c.Serves r₀ programs) {i k : Nat} {h : Handle}
    (hh : c.result? i k = some h) :
    ∃ t, r₀.asked? programs i k = some t ∧ c.registry.Denotes h t := by
  obtain ⟨t, ht, htk⟩ := Option.bind_eq_some_iff.1 hh
  have hi : i < programs.length := hc.length_eq ▸ (List.getElem?_eq_some_iff.1 ht).1
  have hp : programs[i]? = some programs[i] := List.getElem?_eq_getElem hi
  obtain ⟨asked, ha, hd, -⟩ := hc.follows ht hp
  rcases ha.getElem? k with ⟨hn, -⟩ | ⟨g, u, hg, hu, hgu⟩
  · cases hn.symm.trans htk
  · cases hg.symm.trans htk
    refine ⟨u, ?_, hgu⟩
    obtain ⟨rest, hrest⟩ := Registry.prefix_demands r₀ t.pending asked
    have hk : k < asked.length := (List.getElem?_eq_some_iff.1 hu).1
    simp only [Registry.asked?, hp, Option.bind_eq_bind, Option.bind_some]
    rw [← hd, ← hrest, List.getElem?_append_left hk, hu]

/-- At its end a thread has handles of all types that its program asks for. -/
theorem Serves.exists_answered (hc : c.Serves r₀ programs) (hf : c.Finished) {i : Nat}
    {program : List (Request Source)} (hp : programs[i]? = some program) :
    ∃ t, c.threads[i]? = some t ∧ c.registry.Answered t.results (r₀.demands program []) := by
  have hi : i < c.threads.length := hc.length_eq ▸ (List.getElem?_eq_some_iff.1 hp).1
  have ht : c.threads[i]? = some c.threads[i] := List.getElem?_eq_getElem hi
  obtain ⟨asked, ha, hd, -⟩ := hc.follows ht hp
  rw [hf _ (List.getElem_mem hi), Registry.demands] at hd
  exact ⟨_, ht, hd ▸ ha⟩

/-- At the end every request for a type has been answered. -/
theorem Serves.exists_result? (hc : c.Serves r₀ programs) (hf : c.Finished) {i k : Nat}
    {t : TypeLiteral} (ht : r₀.asked? programs i k = some t) : ∃ h, c.result? i k = some h := by
  obtain ⟨program, hp, hk⟩ := Option.bind_eq_some_iff.1 ht
  obtain ⟨thread, hthread, ha⟩ := hc.exists_answered hf hp
  rcases ha.getElem? k with ⟨-, hn⟩ | ⟨g, u, hg, -, -⟩
  · rw [hn] at hk
    cases hk
  · exact ⟨g, Option.bind_eq_some_iff.2 ⟨thread, hthread, hg⟩⟩

/-- At the end the registry holds what it started with and what was asked for. -/
theorem Serves.types_eq (hc : c.Serves r₀ programs) (hf : c.Finished) :
    c.registry.types = r₀.types ∪ r₀.asked programs := by
  refine Set.Subset.antisymm hc.mem_types (Set.union_subset hc.grows.types_subset ?_)
  rintro t ⟨i, k, ht⟩
  obtain ⟨h, hh⟩ := hc.exists_result? hf ht
  obtain ⟨u, hu, hhu⟩ := hc.denotes hh
  cases hu.symm.trans ht
  exact Registry.mem_types_iff.2 ⟨h, hhu⟩

/-- What requests returned is the same just if they ask for the same type. -/
theorem Serves.eq_iff (h₀ : r₀.Consistent) (hc : c.Serves r₀ programs) {i k j l : Nat}
    {g h : Handle} (hg : c.result? i k = some g) (hh : c.result? j l = some h) :
    g = h ↔ r₀.asked? programs i k = r₀.asked? programs j l := by
  obtain ⟨t, ht, hgt⟩ := hc.denotes hg
  obtain ⟨u, hu, hhu⟩ := hc.denotes hh
  rw [ht, hu, Option.some_inj]
  exact hgt.eq_iff (h₀.of_grows hc.grows) hhu

/-- Threads that start from a reachable registry with any programs, their steps in any
order. The requests take effect one by one, in the order of their answers. Whichever
threads make them, requests for one type get one handle, of that type, which is the only
one of its type, and nothing that is stored or known by the memos ever changes. Once all
threads are at their ends, which two steps for each request suffice for, the registry
holds the types of the start and those asked for, as it does after the same requests made
whole one after another, whatever the order. -/
theorem interleaved_requests_agree {r : Registry} (hr : r.Reachable)
    {programs : List (List (Request Source))}
    (hk : ∀ program ∈ programs, ∀ q ∈ program, r.Knows q) (schedule : List Nat) :
    let c := (start r programs).run schedule
    let order := (start r programs).order schedule
    (c.settle = (start r programs).calls order ∧
      ∀ later, order <+: (start r programs).order (schedule ++ later)) ∧
    (∀ i k h, c.result? i k = some h →
      ∃ t, r.asked? programs i k = some t ∧ c.registry.typeOf? h = some t) ∧
    (∀ i k j l g h, c.result? i k = some g → c.result? j l = some h →
      (g = h ↔ r.asked? programs i k = r.asked? programs j l)) ∧
    (∀ g h t, c.registry.typeOf? g = some t → c.registry.typeOf? h = some t → g = h) ∧
    (∀ later, (∀ h d, c.registry.get h = .ok d → (c.run later).registry.get h = .ok d) ∧
      ∀ q h, c.registry.lookup? q = some h → (c.run later).registry.lookup? q = some h) ∧
    ((∀ (i : Nat) (hi : i < programs.length), 2 * programs[i].length ≤ schedule.count i) →
      c.Finished) ∧
    (c.Finished →
      (∀ i k t, r.asked? programs i k = some t → ∃ h, c.result? i k = some h) ∧
      c.registry.types = r.types ∪ r.asked programs ∧
      ∀ order', let s := (start r programs).calls order'
        s.Finished → s.registry.types = c.registry.types ∧ s.registry.count = c.registry.count) := by
  intro c order
  have h₀ : r.Consistent := hr.consistent
  have hc : c.Serves r programs := serves_run h₀ hk schedule
  have hcons : c.registry.Consistent := h₀.of_grows hc.grows
  refine ⟨⟨?_, ?_⟩, ?_, fun i k j l g h hg hh => hc.eq_iff h₀ hg hh, ?_, ?_, finished_run, ?_⟩
  · rw [settle_run, settle_start]
  · intro later
    rw [order_append]
    exact List.prefix_append _ _
  · intro i k h hh
    obtain ⟨t, ht, hht⟩ := hc.denotes hh
    exact ⟨t, ht, Registry.typeOf?_eq_some_iff.2 hht⟩
  · intro g h t hg hh
    exact (Registry.typeOf?_eq_some_iff.1 hg).injective hcons (Registry.typeOf?_eq_some_iff.1 hh)
  · intro later
    have hg : c.registry.Grows (c.run later).registry := c.grows_run later
    exact ⟨fun h d hd => hg.get_of_get hd, fun q h hl => hg.lookup?_of_lookup? hl⟩
  · intro hf
    refine ⟨fun i k t ht => hc.exists_result? hf ht, hc.types_eq hf, ?_⟩
    intro order' s hs
    have hserves : s.Serves r programs := serves_calls h₀ hk (serves_start r programs) order'
    have htypes : s.registry.types = c.registry.types := by
      rw [hserves.types_eq hs, hc.types_eq hf]
    refine ⟨htypes, ?_⟩
    rw [← (h₀.of_grows hserves.grows).ncard_types, htypes, hcons.ncard_types]

/-- Two threads that miss on one class and on its array class; the second ends at a handle
of another registry. Their requests made whole, the second thread's first, leave as many
descriptors. -/
theorem dog_arrays_agree :
    let r := Registry.fresh 0 { preload := false }
    let programs := [[.reference "Dog", .arrayOf (.result 0), .arrayOf (.result 1)],
      [.arrayOf (.handle ⟨0, 4⟩), .reference "Dog", .arrayOf (.result 1),
        .arrayOf (.handle ⟨7, 0⟩)]]
    let c := (start r programs).run [0, 1, 0, 1, 0, 1, 0, 1, 0, 1, 0, 1, 1, 1]
    let s := (start r programs).calls [1, 1, 1, 1, 0, 0, 0]
    r.Reachable ∧ (∀ program ∈ programs, ∀ q ∈ program, r.Knows q) ∧
    c.result? 0 1 = some ⟨0, 10⟩ ∧ c.result? 1 2 = some ⟨0, 10⟩ ∧
    r.asked? programs 0 1 = r.asked? programs 1 2 ∧
    c.Finished ∧ s.Finished ∧ s.registry.count = c.registry.count := by
  intro r programs c s
  have hr : r.Reachable := .fresh 0 _
  have hk : ∀ program ∈ programs, ∀ q ∈ program, r.Knows q := by decide
  have h₀ : c.result? 0 1 = some ⟨0, 10⟩ := by decide
  have h₁ : c.result? 1 2 = some ⟨0, 10⟩ := by decide
  obtain ⟨-, -, heq, -, -, hfair, hend⟩ :=
    interleaved_requests_agree hr hk [0, 1, 0, 1, 0, 1, 0, 1, 0, 1, 0, 1, 1, 1]
  have hf : c.Finished := hfair (by decide)
  have hs : s.Finished := by decide
  obtain ⟨-, -, hwhole⟩ := hend hf
  exact ⟨hr, hk, h₀, h₁, (heq 0 1 1 2 _ _ h₀ h₁).1 rfl, hf, hs, (hwhole _ hs).2⟩

end Crew

end ArrayTypes
