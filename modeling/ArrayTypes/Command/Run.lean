import ArrayTypes.Assignability.Checked
import ArrayTypes.Command.Arguments
import ArrayTypes.Command.Declaration
import ArrayTypes.Log.Filter

/-! What the command prints and how it ends. -/

namespace ArrayTypes.Command

structure Report where
  exitCode : Nat
  output : String
  errors : String
  events : List Log.Event
  deriving DecidableEq, Repr

/-- Two reports one after the other; the second ends the command. -/
def Report.followedBy (a b : Report) : Report :=
  ⟨b.exitCode, a.output ++ b.output, a.errors ++ b.errors, a.events ++ b.events⟩

def success (output : String) (events : List Log.Event) : Report :=
  ⟨0, output, "", events⟩

def failed (error : String) (events : List Log.Event) : Report :=
  ⟨1, "", "Error: " ++ error ++ "\n", events⟩

/-- The lines printed for one type. -/
def block (r : Registry) (h : Handle) : Except Failure String := do
  let component ←
    match ← r.componentType h with
    | some c => r.name c
    | none => pure "-"
  return (← r.name h) ++ "\n"
    ++ "  binary name: " ++ (← r.binaryName h) ++ "\n"
    ++ "  array:       " ++ toString (← r.get h).isArray ++ "\n"
    ++ "  dimensions:  " ++ toString (← r.dimensions h) ++ "\n"
    ++ "  component:   " ++ component ++ "\n"
    ++ "  default:     " ++ (← r.defaultValue h).display ++ "\n"

/-- Each literal is printed before the next one is read. -/
def describe (r : Registry) : List String → Report
  | [] => success "" []
  | literal :: rest =>
    match (do
        let (h, r') ← r.forName literal
        return (h, r', ← block r' h) : Except Failure (Handle × Registry × String)) with
    | .ok (h, r', text) =>
      (success text (Log.ofRequest r.count r' h)).followedBy (describe r' rest)
    | .error f =>
      failed ("while describing `" ++ literal ++ "`\n\nCaused by:\n" ++ Text.indent f.message) []

/-- Both literals are resolved before they are compared. -/
def assignable (r : Registry) (H : Hierarchy) (source target : String) : Report :=
  match r.forName source with
  | .error f => failed f.message []
  | .ok (s, r₁) =>
    let first := success "" (Log.ofRequest r.count r₁ s)
    match r₁.forName target with
    | .error f => first.followedBy (failed f.message [])
    | .ok (t, r₂) =>
      let second := first.followedBy (success "" (Log.ofRequest r₁.count r₂ t))
      match r₂.isAssignable H s t with
      | .ok true => second.followedBy (success "true\n" [])
      | .ok false => second.followedBy ⟨1, "false\n", "", []⟩
      | .error f => second.followedBy (failed f.message [])

/-- The declarations are read before the registry is made. -/
def run (i : Invocation) : Report :=
  match readHierarchy i.declarations .empty with
  | .error text =>
    failed ("class declaration `" ++ text ++ "` is not of the form `Sub:Super1,Super2`") []
  | .ok classes =>
    let config : Config := { preload := i.preload }
    let r := Registry.fresh 0 config
    let start := success "" (Log.ofFresh r config ++ [.configured i.declarations i.preload])
    start.followedBy <|
      match i.action with
      | .describe literals => describe r literals
      | .assignable source target => assignable r classes.hierarchy source target

/-- What a log setting writes, one text for each event that it lets through. -/
def Report.log (report : Report) (setting : Option String) : List String :=
  (report.events.filter (Log.Filter.ofSetting setting).admits).map Log.Event.line

/-- A log line ends where its text first breaks, and at its last character that is no blank. -/
def logLine (text : String) : String :=
  match Text.cutAt '\n' text.toList with
  | some (line, _) => String.ofList (Text.trim line)
  | none => String.ofList (Text.trim text.toList)

/-- The lines of a text after its first. -/
def continuation (text : String) : String :=
  match Text.cutAt '\n' text.toList with
  | some (_, rest) => String.ofList rest ++ "\n"
  | none => ""

def Report.logLines (report : Report) (setting : Option String) : List String :=
  (report.log setting).map logLine

/-- The lines of the log that are no log lines, and then the error text. -/
def Report.errorText (report : Report) (setting : Option String) : String :=
  String.join ((report.log setting).map continuation) ++ report.errors

end ArrayTypes.Command
