import ArrayTypes.Descriptor
import ArrayTypes.TypeLiteral.Place

/-! Why a call has no answer. -/

namespace ArrayTypes

inductive Failure where
  | invalidTypeLiteral (text : String) (cause : TypeLiteral.SyntaxError)
  /-- By binary names. -/
  | classCast (source target : String)
  | arrayStore (value component : String)
  | notAnArray (name : String)
  | negativeArraySize (length : Int32)
  /-- A handle was looked up in a registry that has no descriptor for it. -/
  | foreignHandle (handle : Handle) (registry : Nat)
  deriving DecidableEq, Repr

def Failure.message : Failure → String
  | invalidTypeLiteral text cause => "invalid type literal `" ++ text ++ "`: " ++ cause.message
  | classCast source target => "class " ++ source ++ " cannot be cast to class " ++ target
  | arrayStore value component =>
    "cannot store a value of type " ++ value ++ " into an array of " ++ component
  | notAnArray name => name ++ " is not an array type"
  | negativeArraySize length => "negative array size: " ++ toString length.toInt
  | foreignHandle handle registry =>
    handle.display ++ " does not belong to store " ++ toString registry

end ArrayTypes
