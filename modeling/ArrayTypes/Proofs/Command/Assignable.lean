import ArrayTypes.Proofs.Assignability.ClosedForm
import ArrayTypes.Proofs.Command.Outcome
import ArrayTypes.Proofs.Hierarchy.Worklist
import ArrayTypes.Proofs.TypeLiteral.Unspaced

/-! The question of assignability on the command line. Its answer is that of the two types that
the literals spell, under the hierarchy of the declared steps. So the order of declarations, what
they repeat or leave empty, how the steps are shared out among them, blanks, and whether arrays
were preloaded make no difference. -/

namespace ArrayTypes.Command

variable {source target : String} {s t : TypeLiteral}

theorem hierarchy_hierarchyOf_congr {texts texts' : List String}
    (h : declaredSteps texts = declaredSteps texts') :
    (hierarchyOf texts).hierarchy = (hierarchyOf texts').hierarchy := by
  refine ClassHierarchy.hierarchy_congr fun name super => ?_
  rw [mem_directSupertypes_hierarchyOf, mem_directSupertypes_hierarchyOf, h]

/-- What is shown for an answer. -/
def shownAnswer (answer : Bool) : Nat × String × String :=
  if answer then (0, "true\n", "") else (1, "false\n", "")

theorem shown_assignable {r : Registry} (hr : r.Consistent) (H : Hierarchy)
    (hs : TypeLiteral.parse source = .ok s) (ht : TypeLiteral.parse target = .ok t) :
    (assignable r H source target).shown = shownAnswer ((s.judge t).answer H) := by
  obtain ⟨a, r₁, hsource, ha⟩ := Registry.exists_resolve hr s
  have hr₁ : r₁.Consistent := hr.of_grows (Registry.grows_of_resolve hsource)
  obtain ⟨b, r₂, htarget, hb⟩ := Registry.exists_resolve hr₁ t
  have hg : r₁.Grows r₂ := Registry.grows_of_resolve htarget
  have hanswer : r₂.isAssignable H a b = .ok ((s.judge t).answer H) :=
    Registry.isAssignable_eq (hr₁.of_grows hg) (ha.grows hg) hb
  have hfirst : r.forName source = .ok (a, r₁) := by
    simp only [Registry.forName, hs, hsource]
  have hsecond : r₁.forName target = .ok (b, r₂) := by
    simp only [Registry.forName, ht, htarget]
  simp only [assignable, hfirst, hsecond, hanswer]
  cases (s.judge t).answer H <;> simp [Report.shown, Report.followedBy, success, shownAnswer]

/-- The whole run comes to a question on two types. -/
theorem shown_run_assignable {declarations : List String}
    (hd : ∀ d ∈ declarations, ':' ∈ d.toList) (preload : Bool)
    (hs : TypeLiteral.parse source = .ok s) (ht : TypeLiteral.parse target = .ok t) :
    (run ⟨declarations, preload, .assignable source target⟩).shown =
      shownAnswer ((s.judge t).answer (hierarchyOf declarations).hierarchy) := by
  obtain ⟨r, events, hr, hrun⟩ := exists_run_eq hd preload (.assignable source target)
  rw [hrun, shown_success_followedBy]
  exact shown_assignable hr _ hs ht

theorem shown_eq_shownAnswer_iff {report : Report} {answer : Bool} :
    report.shown = shownAnswer answer ↔
      report.exitCode = (if answer then 0 else 1) ∧
        report.output = (if answer then "true\n" else "false\n") ∧ report.errors = "" := by
  cases answer <;> simp [Report.shown, shownAnswer]

/-- Of two runs whose declarations state the same steps and whose literals differ in blanks
alone, both show the same. A run shows one of the two answers, and the one that holds where both
its literals are the same but for blanks. -/
theorem assignable_depends_on_meaning {declarations declarations' : List String}
    {source target source' target' : String} (preload preload' : Bool)
    (hd : ∀ d ∈ declarations, ':' ∈ d.toList) (hd' : ∀ d ∈ declarations', ':' ∈ d.toList)
    (hsource : IsLiteral source) (htarget : IsLiteral target) (hsource' : IsLiteral source')
    (htarget' : IsLiteral target')
    (hsteps : declaredSteps declarations = declaredSteps declarations')
    (hs : Text.unspaced source.toList = Text.unspaced source'.toList)
    (ht : Text.unspaced target.toList = Text.unspaced target'.toList) :
    let report := run ⟨declarations, preload, .assignable source target⟩
    let report' := run ⟨declarations', preload', .assignable source' target'⟩
    report.output = report'.output ∧ report.exitCode = report'.exitCode ∧
      (report.output = "true\n" ∧ report.exitCode = 0 ∨
        report.output = "false\n" ∧ report.exitCode = 1) ∧
      report.errors = "" ∧ report'.errors = "" ∧
      (Text.unspaced source.toList = Text.unspaced target.toList → report.output = "true\n") := by
  intro report report'
  obtain ⟨s, hps⟩ := hsource
  obtain ⟨t, hpt⟩ := htarget
  obtain ⟨s', hps'⟩ := hsource'
  obtain ⟨t', hpt'⟩ := htarget'
  have hss : s = s' := TypeLiteral.eq_of_unspaced_eq hps hps' hs
  have htt : t = t' := TypeLiteral.eq_of_unspaced_eq hpt hpt' ht
  have hshown := shown_run_assignable hd preload hps hpt
  have hshown' := shown_run_assignable hd' preload' hps' hpt'
  rw [← hss, ← htt, ← hierarchy_hierarchyOf_congr hsteps, shown_eq_shownAnswer_iff] at hshown'
  rw [shown_eq_shownAnswer_iff] at hshown
  obtain ⟨hexit, houtput, herrors⟩ := hshown
  obtain ⟨hexit', houtput', herrors'⟩ := hshown'
  refine ⟨houtput.trans houtput'.symm, hexit.trans hexit'.symm, ?_, herrors, herrors', ?_⟩
  · cases hanswer : (s.judge t).answer (hierarchyOf declarations).hierarchy with
    | true => exact .inl ⟨by rw [houtput, hanswer]; rfl, by rw [hexit, hanswer]; rfl⟩
    | false => exact .inr ⟨by rw [houtput, hanswer]; rfl, by rw [hexit, hanswer]; rfl⟩
  · intro hsame
    have hst : s = t := TypeLiteral.eq_of_unspaced_eq hps hpt hsame
    rw [houtput, hst, TypeLiteral.judge_self]
    rfl

/-- The same steps in other declarations, with blanks of several bytes. -/
theorem respelled_question_answers_alike :
    let declarations := ["Dog:Animal, Pet", "Animal:Thing"]
    let declarations' := ["Animal :,\u3000Thing", "Dog:Pet,Pet", " Dog\t: Animal,, "]
    let report := run ⟨declarations, true, .assignable "Dog[]" "Thing[]"⟩
    let report' := run ⟨declarations', false, .assignable "\u2003Dog [ ]" "Thing[]\u00a0"⟩
    (∀ d ∈ declarations, ':' ∈ d.toList) ∧ (∀ d ∈ declarations', ':' ∈ d.toList) ∧
    IsLiteral "Dog[]" ∧ IsLiteral "Thing[]" ∧ IsLiteral "\u2003Dog [ ]" ∧
    IsLiteral "Thing[]\u00a0" ∧ declaredSteps declarations = declaredSteps declarations' ∧
    Text.unspaced "Dog[]".toList = Text.unspaced "\u2003Dog [ ]".toList ∧
    Text.unspaced "Thing[]".toList = Text.unspaced "Thing[]\u00a0".toList ∧
    report.output = "true\n" ∧ report'.output = "true\n" ∧ report'.exitCode = 0 := by
  intro declarations declarations' report report'
  have hcolon : ∀ d ∈ declarations, ':' ∈ d.toList := by decide
  have hcolon' : ∀ d ∈ declarations', ':' ∈ d.toList := by decide
  have hdog : TypeLiteral.parse "Dog[]" = .ok ⟨.reference "Dog", 1⟩ := by cbv
  have hdog' : TypeLiteral.parse "\u2003Dog [ ]" = .ok ⟨.reference "Dog", 1⟩ := by cbv
  have hthing : TypeLiteral.parse "Thing[]" = .ok ⟨.reference "Thing", 1⟩ := by cbv
  have hthing' : TypeLiteral.parse "Thing[]\u00a0" = .ok ⟨.reference "Thing", 1⟩ := by cbv
  have hsteps : declaredSteps declarations = declaredSteps declarations' := by
    have hread : hierarchyOf declarations =
        ⟨[⟨"Dog", ["Animal", "Pet"]⟩, ⟨"Animal", ["Thing"]⟩]⟩ := by decide +kernel
    have hread' : hierarchyOf declarations' =
        ⟨[⟨"Animal", ["Thing"]⟩, ⟨"Dog", ["Pet", "Pet"]⟩, ⟨"Dog", ["Animal"]⟩]⟩ := by
      decide +kernel
    ext ⟨name, super⟩
    rw [← mem_directSupertypes_hierarchyOf, ← mem_directSupertypes_hierarchyOf, hread, hread']
    simp only [ClassHierarchy.directSupertypes, ClassDeclaration.supertypesOf]
    grind
  have hsource : Text.unspaced "Dog[]".toList = Text.unspaced "\u2003Dog [ ]".toList := by
    decide +kernel
  have htarget : Text.unspaced "Thing[]".toList = Text.unspaced "Thing[]\u00a0".toList := by
    decide +kernel
  obtain ⟨houtput, hexit, -⟩ := assignable_depends_on_meaning true false hcolon hcolon' ⟨_, hdog⟩
    ⟨_, hthing⟩ ⟨_, hdog'⟩ ⟨_, hthing'⟩ hsteps hsource htarget
  have hanswer : (TypeLiteral.judge ⟨.reference "Dog", 1⟩ ⟨.reference "Thing", 1⟩).answer
      (hierarchyOf declarations).hierarchy = true := by cbv
  have hshown := shown_run_assignable hcolon true hdog hthing
  rw [hanswer, shown_eq_shownAnswer_iff] at hshown
  obtain ⟨hzero, htrue, -⟩ := hshown
  exact ⟨hcolon, hcolon', ⟨_, hdog⟩, ⟨_, hthing⟩, ⟨_, hdog'⟩, ⟨_, hthing'⟩, hsteps, hsource,
    htarget, htrue, houtput.symm.trans htrue, hexit.symm.trans hzero⟩

end ArrayTypes.Command
