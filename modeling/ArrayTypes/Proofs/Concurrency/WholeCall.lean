import ArrayTypes.Proofs.Registry.Growth
import Mathlib.Logic.Function.Iterate

/-! Requests made in one go. A thread that misses changes nothing that another thread can
see, and the step that answers it does what the whole request would do at that moment.
So every interleaved run is a run of whole requests, made in the order of the answers.
A schedule that names each thread twice for each of its requests brings all to an end. The
programs that resolve types do, when their thread runs alone, what resolving them does. -/

namespace ArrayTypes

namespace Thread

/-- The next request of a thread, made in one go. -/
def call (r : Registry) (t : Thread) : Registry × Thread :=
  match t.pending.head? with
  | none => (r, t)
  | some request =>
    match request.handles? t.results with
    | none => (r, t.stop)
    | some request =>
      match r.obtain request with
      | .ok (h, r') => (r', t.receive h)
      | .error _ => (r, t.stop)

/-- The thread before it looked in the memo. -/
def settle (t : Thread) : Thread :=
  { t with missed := false }

end Thread

namespace Crew

/-- A whole request of the `i`-th thread. -/
def call (c : Crew) (i : Nat) : Crew :=
  match c.threads[i]? with
  | none => c
  | some t =>
    let (registry, t') := t.call c.registry
    ⟨registry, c.threads.set i t'⟩

/-- Whole requests one after another; the list names the thread of each. -/
def calls (c : Crew) (order : List Nat) : Crew :=
  order.foldl call c

def settle (c : Crew) : Crew :=
  ⟨c.registry, c.threads.map Thread.settle⟩

/-- The steps of a schedule that end a request, in their order: all but the misses. -/
def order (c : Crew) : List Nat → List Nat
  | [] => []
  | i :: schedule =>
    if (c.step i).threads[i]?.any Thread.missed then (c.step i).order schedule
    else i :: (c.step i).order schedule

/-- All threads have come to their ends. -/
def Finished (c : Crew) : Prop :=
  ∀ t ∈ c.threads, t.pending = []

instance (c : Crew) : Decidable c.Finished :=
  inferInstanceAs (Decidable (∀ t ∈ c.threads, t.pending = []))

end Crew

/-! ### A step is no call or a whole one -/

/-- A miss shows nothing, any other step shows what the whole request does. -/
theorem Thread.settle_step (r : Registry) (t : Thread) :
    ((t.step r).1, (t.step r).2.settle) =
      if (t.step r).2.missed then (r, t.settle) else t.settle.call r := by
  obtain ⟨pending, results, missed⟩ := t
  cases pending with
  | nil => cases missed <;> rfl
  | cons q rest =>
    simp only [step, call, settle, List.head?_cons]
    cases hq : q.handles? results with
    | none => rfl
    | some q' =>
      cases missed with
      | true =>
        simp only [if_true]
        cases r.obtain q' <;> rfl
      | false =>
        simp only [Bool.false_eq_true, if_false]
        cases hl : r.lookup? q' with
        | none => rfl
        | some h =>
          simp only [Registry.obtain_of_lookup? hl]
          rfl

namespace Crew

theorem settle_start (r : Registry) (programs : List (List (Request Source))) :
    (start r programs).settle = start r programs := by
  simp only [settle, start, List.map_map]
  rfl

theorem threads_step {c : Crew} {i : Nat} {t : Thread} (ht : c.threads[i]? = some t) :
    (c.step i).threads[i]? = some (t.step c.registry).2 := by
  have hi : i < c.threads.length := (List.getElem?_eq_some_iff.1 ht).1
  simp only [step, ht, List.getElem?_set_self hi]

theorem settle_step (c : Crew) (i : Nat) :
    (c.step i).settle =
      if (c.step i).threads[i]?.any Thread.missed then c.settle else c.settle.call i := by
  cases ht : c.threads[i]? with
  | none => simp [step, call, settle, ht]
  | some t =>
    have hs : (c.threads.map Thread.settle)[i]? = some t.settle := by simp [ht]
    have hstep := t.settle_step c.registry
    rw [threads_step ht, Option.any_some]
    simp only [step, ht, settle, List.map_set]
    cases hm : (t.step c.registry).2.missed with
    | true =>
      obtain ⟨hi, he⟩ := List.getElem?_eq_some_iff.1 hs
      obtain ⟨hr, hsettle⟩ := Prod.mk.inj (hstep.trans (if_pos hm))
      rw [if_pos rfl, hr, hsettle, ← he, List.set_getElem_self]
    | false =>
      have hcall := hstep.trans (if_neg (by simp [hm]))
      simp only [Bool.false_eq_true, if_false, call, hs, ← hcall]

/-- An interleaved run leaves what whole requests leave, made in the order in which the
requests were answered. -/
theorem settle_run (c : Crew) (schedule : List Nat) :
    (c.run schedule).settle = c.settle.calls (c.order schedule) := by
  induction schedule generalizing c with
  | nil => rfl
  | cons i schedule ih =>
    have hrun : c.run (i :: schedule) = (c.step i).run schedule := rfl
    rw [hrun, ih, settle_step, order]
    split <;> rfl

/-- What has been answered stays at the front of the order. -/
theorem order_append (c : Crew) (schedule later : List Nat) :
    c.order (schedule ++ later) = c.order schedule ++ (c.run schedule).order later := by
  induction schedule generalizing c with
  | nil => rfl
  | cons i schedule ih =>
    have hrun : c.run (i :: schedule) = (c.step i).run schedule := rfl
    simp only [List.cons_append, order, ih, hrun]
    split <;> rfl

end Crew

/-! ### Every thread comes to its end -/

/-- The most steps that a thread can still take. -/
def Thread.remaining (t : Thread) : Nat :=
  2 * t.pending.length - if t.missed then 1 else 0

theorem Thread.pending_eq_nil_of_remaining {t : Thread} (h : t.remaining = 0) : t.pending = [] := by
  unfold remaining at h
  have hl : t.pending.length = 0 := by
    split at h <;> omega
  exact List.eq_nil_of_length_eq_zero hl

theorem Thread.remaining_step_le (r : Registry) (t : Thread) :
    (t.step r).2.remaining ≤ t.remaining - 1 := by
  obtain ⟨pending, results, missed⟩ := t
  cases pending with
  | nil => cases missed <;> simp [step, remaining]
  | cons q rest =>
    have hstop : (Thread.mk (q :: rest) results missed).stop.remaining = 0 := rfl
    have hreceive (h : Handle) :
        ((Thread.mk (q :: rest) results missed).receive h).remaining = 2 * rest.length := rfl
    simp only [step, List.head?_cons]
    cases q.handles? results with
    | none => simp only [hstop]; omega
    | some q' =>
      cases missed with
      | true =>
        simp only [if_true]
        cases r.obtain q' with
        | ok p =>
          dsimp only
          rw [hreceive]
          simp only [remaining, List.length_cons, if_true]
          omega
        | error e => simp only [hstop]; omega
      | false =>
        simp only [Bool.false_eq_true, if_false]
        cases r.lookup? q' with
        | some h =>
          dsimp only
          rw [hreceive]
          simp only [remaining, List.length_cons, Bool.false_eq_true, if_false]
          omega
        | none => simp [remaining]

namespace Crew

theorem length_threads_step (c : Crew) (i : Nat) :
    (c.step i).threads.length = c.threads.length := by
  unfold step
  split
  · rfl
  · simp

theorem length_threads_run (c : Crew) (schedule : List Nat) :
    (c.run schedule).threads.length = c.threads.length := by
  induction schedule generalizing c with
  | nil => rfl
  | cons i schedule ih => exact (ih (c.step i)).trans (c.length_threads_step i)

theorem exists_thread_step {c : Crew} {i : Nat} {t : Thread} (ht : c.threads[i]? = some t)
    (j : Nat) : ∃ t', (c.step j).threads[i]? = some t' ∧
      t'.remaining ≤ t.remaining - if j = i then 1 else 0 := by
  by_cases hj : j = i
  · subst hj
    exact ⟨(t.step c.registry).2, threads_step ht, by simpa using t.remaining_step_le c.registry⟩
  · refine ⟨t, ?_, by simp [hj]⟩
    unfold step
    split
    · exact ht
    · simp [List.getElem?_set_ne hj, ht]

theorem exists_thread_run {c : Crew} {i : Nat} {t : Thread} (ht : c.threads[i]? = some t)
    (schedule : List Nat) : ∃ t', (c.run schedule).threads[i]? = some t' ∧
      t'.remaining ≤ t.remaining - schedule.count i := by
  induction schedule generalizing c t with
  | nil => exact ⟨t, ht, by simp⟩
  | cons j schedule ih =>
    obtain ⟨t₁, ht₁, h₁⟩ := exists_thread_step ht j
    obtain ⟨t', ht', h'⟩ := ih ht₁
    refine ⟨t', ht', ?_⟩
    rw [List.count_cons]
    simp only [beq_iff_eq]
    omega

/-- Two steps for each request are enough, whatever the other threads do in between. -/
theorem finished_run {r : Registry} {programs : List (List (Request Source))}
    {schedule : List Nat}
    (hs : ∀ (i : Nat) (hi : i < programs.length), 2 * programs[i].length ≤ schedule.count i) :
    ((start r programs).run schedule).Finished := by
  intro t' ht'
  obtain ⟨i, hi, he⟩ := List.mem_iff_getElem.1 ht'
  have hp : i < programs.length := by
    rw [length_threads_run, start, List.length_map] at hi
    exact hi
  have hstart : (start r programs).threads[i]? = some (Thread.start programs[i]) := by
    simp [start, hp]
  obtain ⟨t, ht, hle⟩ := exists_thread_run hstart schedule
  have heq : t = t' := by
    rw [List.getElem?_eq_getElem hi, he] at ht
    exact (Option.some.inj ht).symm
  have hcount := hs i hp
  have hrem : (Thread.start programs[i]).remaining = 2 * programs[i].length := rfl
  rw [heq] at hle
  exact Thread.pending_eq_nil_of_remaining (by omega)

end Crew

/-! ### A thread alone -/

theorem Registry.length_levelRequests (s : Source) (made n : Nat) :
    (levelRequests s made n).1.length = n := by
  induction n generalizing s made with
  | zero => rfl
  | succ n ih => simp only [levelRequests, List.length_cons, ih]

namespace Thread

variable {r r₀ r' : Registry} {e h : Handle} {n : Nat} {s : Source} {results : List Handle}

/-- The next request of a thread that has the registry to itself. -/
def advance (p : Registry × Thread) : Registry × Thread :=
  p.2.call p.1

theorem advance_of_obtain {q : Request Source} {q' : Request Handle}
    (hq : q.handles? results = some q') (ho : r.obtain q' = .ok (h, r'))
    (rest : List (Request Source)) :
    advance (r, ⟨q :: rest, results, false⟩) = (r', ⟨rest, results ++ [h], false⟩) := by
  simp only [advance, call, List.head?_cons, hq, ho]
  rfl

/-- The requests for levels around a source take the array class of its handle as often. -/
theorem iterate_levelRequests (hw : r.withDimensions e n = .ok (h, r'))
    (hs : s.handle? results = some e) (rest : List (Request Source)) :
    ∃ made,
      advance^[n] (r, ⟨(Registry.levelRequests s results.length n).1 ++ rest, results, false⟩) =
        (r', ⟨rest, results ++ made, false⟩) ∧
      (Registry.levelRequests s results.length n).2.handle? (results ++ made) = some h := by
  induction n generalizing r s results e with
  | zero =>
    cases hw
    exact ⟨[], by rw [List.append_nil]; rfl, by rwa [List.append_nil]⟩
  | succ n ih =>
    simp only [Registry.withDimensions] at hw
    split at hw
    next g r₁ hg =>
      have hrequest : (Request.arrayOf s).handles? results = some (.arrayOf e) := by
        rw [Request.handles?, hs]
        rfl
      have hlast : (Source.result results.length).handle? (results ++ [g]) = some g := by
        simp [Source.handle?]
      obtain ⟨made, hrun, hfound⟩ := ih hw hlast
      rw [List.length_append, List.length_singleton, List.append_assoc] at hrun hfound
      refine ⟨g :: made, ?_, hfound⟩
      rw [Function.iterate_succ_apply, Registry.levelRequests, List.cons_append,
        advance_of_obtain hrequest hg, hrun]
      rfl
    · cases hw

/-- The requests of a type resolve it. They may have been written for an earlier state of the
registry, and other requests may stand before and after them. -/
theorem iterate_typeRequests (hid : r₀.id = r.id) {t : TypeLiteral}
    (ht : r.resolve t = .ok (h, r')) (results : List Handle) (rest : List (Request Source)) :
    let program := r₀.typeRequests t results.length
    ∃ made, advance^[program.1.length] (r, ⟨program.1 ++ rest, results, false⟩) =
        (r', ⟨rest, results ++ made, false⟩) ∧
      program.2.handle? (results ++ made) = some h := by
  obtain ⟨e, n⟩ := t
  cases e with
  | primitive kind =>
    have hw : r.withDimensions (r.primitive kind) n = .ok (h, r') := ht
    have hs : (Source.handle (r₀.primitive kind)).handle? results = some (r.primitive kind) := by
      rw [Source.handle?, Registry.primitive, Registry.primitive, hid]
    obtain ⟨made, hrun, hfound⟩ := iterate_levelRequests hw hs rest
    refine ⟨made, ?_, hfound⟩
    simpa only [Registry.typeRequests, Registry.length_levelRequests] using hrun
  | reference name =>
    have hw : (r.reference name).2.withDimensions (r.reference name).1 n = .ok (h, r') := ht
    have hlast : (Source.result results.length).handle? (results ++ [(r.reference name).1]) =
        some (r.reference name).1 := by
      simp [Source.handle?]
    obtain ⟨made, hrun, hfound⟩ := iterate_levelRequests hw hlast rest
    rw [List.length_append, List.length_singleton, List.append_assoc] at hrun hfound
    have hfirst (requests : List (Request Source)) :
        advance (r, ⟨.reference name :: requests, results, false⟩) =
          ((r.reference name).2, ⟨requests, results ++ [(r.reference name).1], false⟩) :=
      advance_of_obtain rfl rfl requests
    refine ⟨(r.reference name).1 :: made, ?_, hfound⟩
    simp only [Registry.typeRequests, List.length_cons, Registry.length_levelRequests,
      Function.iterate_succ_apply, List.cons_append]
    rw [hfirst]
    exact hrun

end Thread

end ArrayTypes
