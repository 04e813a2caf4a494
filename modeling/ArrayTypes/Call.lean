import ArrayTypes.Assignability.Checked
import ArrayTypes.Concurrency

/-! The calls that a registry answers, as data: handles are given as `ι` and
hierarchies as `η`, so that a call can be written before its handles exist. -/

namespace ArrayTypes

/-- What may be asked about one handle. -/
inductive Query where
  | descriptor | name | binaryName | isArray | isPrimitive
  | component | element | dimensions | defaultValue | slotDefault
  deriving DecidableEq, Repr

inductive Call (ι η : Type) where
  | primitive (kind : Kind)
  | primitiveArray (kind : Kind)
  | reference (name : String)
  | arrayOf (component : ι)
  | withDimensions (element : ι) (n : Nat)
  | resolve (t : TypeLiteral)
  | forName (text : String)
  | inspect (query : Query) (handle : ι)
  /-- Whether the display name is the given text. -/
  | isNamed (handle : ι) (text : String)
  | assignable (source target : ι) (H : η)
  | checkedCast (source target : ι) (H : η)
  | checkStore (array value : ι) (H : η)
  | count
  | resolveTogether (threads : Nat) (texts : List String)
  | raceTogether (threads rounds : Nat) (name : String)

inductive Answer where
  | nothing
  | flag (b : Bool)
  | number (n : Nat)
  | text (s : String)
  | texts (names : List String)
  | handle (h : Handle)
  | component (h : Option Handle)
  | value (v : Value)
  | slot (v : Option Value)
  | descriptor (d : Descriptor)
  | assignable (b : Bool) (questions : List Question)
  | agreement (b : Bool) (count : Nat)
  deriving DecidableEq, Repr

namespace Call

variable {ι η κ θ : Type}

/-- The call with its handles and hierarchies looked up, if all of them are found. -/
def traverse (f : ι → Option κ) (g : η → Option θ) : Call ι η → Option (Call κ θ)
  | primitive kind => some (primitive kind)
  | primitiveArray kind => some (primitiveArray kind)
  | reference name => some (reference name)
  | arrayOf component => do return arrayOf (← f component)
  | withDimensions element n => do return withDimensions (← f element) n
  | resolve t => some (resolve t)
  | forName text => some (forName text)
  | inspect query handle => do return inspect query (← f handle)
  | isNamed handle text => do return isNamed (← f handle) text
  | assignable source target H => do return assignable (← f source) (← f target) (← g H)
  | checkedCast source target H => do return checkedCast (← f source) (← f target) (← g H)
  | checkStore array value H => do return checkStore (← f array) (← f value) (← g H)
  | count => some count
  | resolveTogether threads texts => some (resolveTogether threads texts)
  | raceTogether threads rounds name => some (raceTogether threads rounds name)

/-- The call with other hierarchies. -/
def map (g : η → θ) : Call ι η → Call ι θ
  | primitive kind => primitive kind
  | primitiveArray kind => primitiveArray kind
  | reference name => reference name
  | arrayOf component => arrayOf component
  | withDimensions element n => withDimensions element n
  | resolve t => resolve t
  | forName text => forName text
  | inspect query handle => inspect query handle
  | isNamed handle text => isNamed handle text
  | assignable source target H => assignable source target (g H)
  | checkedCast source target H => checkedCast source target (g H)
  | checkStore array value H => checkStore array value (g H)
  | count => count
  | resolveTogether threads texts => resolveTogether threads texts
  | raceTogether threads rounds name => raceTogether threads rounds name

/-- The handles that a call is given. -/
def handles : Call ι η → List ι
  | arrayOf h | withDimensions h _ | inspect _ h | isNamed h _ => [h]
  | assignable a b _ | checkedCast a b _ | checkStore a b _ => [a, b]
  | _ => []

def hierarchy? : Call ι η → Option η
  | assignable _ _ H | checkedCast _ _ H | checkStore _ _ H => some H
  | _ => none

end Call

namespace Registry

def inspect (r : Registry) (h : Handle) : Query → Except Failure Answer
  | .descriptor => .descriptor <$> r.get h
  | .name => .text <$> r.name h
  | .binaryName => .text <$> r.binaryName h
  | .isArray => (.flag ·.isArray) <$> r.get h
  | .isPrimitive => (.flag ·.isPrimitive) <$> r.get h
  | .component => .component <$> r.componentType h
  | .element => .handle <$> r.elementType h
  | .dimensions => .number <$> r.dimensions h
  | .defaultValue => .value <$> r.defaultValue h
  | .slotDefault => .slot <$> r.slotDefault h

def made : Handle × Registry → Answer × Registry
  | (h, r) => (.handle h, r)

/-- The answer to a call and the registry after it. -/
def perform (r : Registry) : Call Handle Hierarchy → Except Failure (Answer × Registry)
  | .primitive kind => .ok (.handle (r.primitive kind), r)
  | .primitiveArray kind => made <$> r.primitiveArray kind
  | .reference name => .ok (made (r.reference name))
  | .arrayOf component => made <$> r.arrayOf component
  | .withDimensions element n => made <$> r.withDimensions element n
  | .resolve t => made <$> r.resolve t
  | .forName text => made <$> r.forName text
  | .inspect query h => (·, r) <$> r.inspect h query
  | .isNamed h text => (fun name => (.flag (name = text), r)) <$> r.name h
  | .assignable source target H =>
    (fun j => (.assignable (j.answer H) j.questions, r)) <$> r.judge source target
  | .checkedCast source target H => (fun h => (.handle h, r)) <$> r.checkedCast H source target
  | .checkStore array value H => (fun _ => (.nothing, r)) <$> r.checkStore H array value
  | .count => .ok (.number r.count, r)
  | .resolveTogether threads texts =>
    let (agree, r') := r.resolveTogether threads texts
    .ok (.agreement agree r'.count, r')
  | .raceTogether threads rounds name =>
    let (agree, r') := r.raceTogether threads rounds name
    .ok (.agreement agree r'.count, r')

end Registry

end ArrayTypes
