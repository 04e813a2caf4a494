import ArrayTypes.Command.Run
import ArrayTypes.Proofs.Command.Declarations
import ArrayTypes.Proofs.Registry.Consistency

/-! What a run of the command shows: its exit code, its output and its error text, without the
log. Reports one after the other show what they show together, and once the declarations are
read, all that is shown is the action's. -/

namespace ArrayTypes.Command

/-- The text is a type literal. -/
def IsLiteral (text : String) : Prop :=
  ∃ t, TypeLiteral.parse text = .ok t

/-! ### Reports -/

/-- The exit code, the output and the error text. -/
def Report.shown (report : Report) : Nat × String × String :=
  (report.exitCode, report.output, report.errors)

theorem success_followedBy (first second : String) (events events' : List Log.Event)
    (report : Report) :
    (success first events).followedBy ((success second events').followedBy report) =
      (success (first ++ second) (events ++ events')).followedBy report := by
  simp [Report.followedBy, success, String.append_assoc]

/-- A report of events alone shows nothing. -/
theorem shown_success_followedBy (events : List Log.Event) (report : Report) :
    ((success "" events).followedBy report).shown = report.shown := by
  simp [Report.shown, Report.followedBy, success]

/-! ### Declarations and actions -/

/-- What the command prints and how it ends are left to the action once the hierarchy is read. -/
theorem exists_run_eq {declarations : List String} (h : ∀ d ∈ declarations, ':' ∈ d.toList)
    (preload : Bool) (action : Action) :
    ∃ r : Registry, ∃ events, r.Consistent ∧
      run ⟨declarations, preload, action⟩ = (success "" events).followedBy
        (match action with
          | .describe literals => describe r literals
          | .assignable source target =>
            assignable r (hierarchyOf declarations).hierarchy source target) := by
  let r := Registry.fresh 0 { preload }
  let events := Log.ofFresh r { preload } ++ [.configured declarations preload]
  refine ⟨r, events, Registry.consistent_fresh 0 { preload }, ?_⟩
  rewrite [run, readHierarchy_eq_hierarchyOf h]
  rfl

theorem exists_run_eq_failed {declarations : List String} {d : String} (hd : d ∈ declarations)
    (h : ':' ∉ d.toList) (preload : Bool) (action : Action) :
    ∃ error, run ⟨declarations, preload, action⟩ = failed error [] := by
  obtain ⟨bad, hbad⟩ := exists_readHierarchy_eq_error hd h
  exact ⟨_, by rw [run, hbad]⟩

end ArrayTypes.Command
