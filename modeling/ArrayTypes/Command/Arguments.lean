/-! The arguments of the command: options, then one of two actions with its operands.
An option may be repeated only if it takes a value. -/

namespace ArrayTypes.Command

inductive Action where
  | describe (literals : List String)
  | assignable (source target : String)
  deriving DecidableEq, Repr

structure Invocation where
  declarations : List String
  preload : Bool
  action : Action
  deriving DecidableEq, Repr

/-- Whether an argument would be taken for an option; a lone dash is not. -/
def looksLikeOption (argument : String) : Bool :=
  argument.startsWith "-" && argument ≠ "-"

/-- Operands may look like options only after `--`, which is dropped where it first stands. -/
def operands : List String → Option (List String)
  | [] => some []
  | argument :: rest =>
    if argument = "--" then some rest
    else if looksLikeOption argument then none
    else (operands rest).map (argument :: ·)

/-- `describe` needs at least one operand and `assignable` exactly two. -/
def readAction (name : String) (rest : List String) : Option Action :=
  match name, operands rest with
  | "describe", some (first :: others) => some (.describe (first :: others))
  | "assignable", some [source, target] => some (.assignable source target)
  | _, _ => none

/-- The value of an option written as one argument, as in `--class=Sub:Super`. -/
def attachedDeclaration? (argument : String) : Option String :=
  ("--class=".toList.isPrefixOf? argument.toList).map String.ofList

/-- The invocation that the arguments spell, with the options read so far; there is none if
they are misused. -/
def readArguments (declarations : List String) (preload : Bool) :
    List String → Option Invocation
  | [] => none
  | "--class" :: rest =>
    match rest with
    | [] => none
    | declaration :: rest =>
      if looksLikeOption declaration then none
      else readArguments (declarations ++ [declaration]) preload rest
  | "--no-preload" :: rest => if preload then readArguments declarations false rest else none
  | argument :: rest =>
    match attachedDeclaration? argument with
    | some declaration => readArguments (declarations ++ [declaration]) preload rest
    | none => (readAction argument rest).map fun action => ⟨declarations, preload, action⟩

def Invocation.ofArguments? (arguments : List String) : Option Invocation :=
  readArguments [] true arguments

end ArrayTypes.Command
