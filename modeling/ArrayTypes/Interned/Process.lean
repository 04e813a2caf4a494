import ArrayTypes.Interned

/-! Calls on the stores of a process. The pool that they share is added to by other parts of
the process too, and a call that fails may have left names in it. -/

namespace ArrayTypes.Interned

/-- A use of a store. Nothing comes of it if the pool lacks a symbol; otherwise a failure or a
result with the store after it, and in either case the pool after it. -/
abbrev Use := StateT Store (ExceptT Failure (StateT NamePool Option))

namespace Use

/-! ### Steps -/

/-- What the store has an answer to by itself. -/
def look {α : Type} (f : Store → Except Failure α) : Use α :=
  fun s p => some ((f s).map (·, s), p)

/-- A symbol for which the pool may grow. -/
def naming (f : NamePool → Symbol × NamePool) : Use Symbol :=
  fun s p => some (.ok ((f p).1, s), (f p).2)

/-- What is read in the pool. -/
def reading {α : Type} (f : NamePool → Option α) : Use α :=
  fun s p => do return (.ok (← f p, s), p)

def intern (name : String) : Use Symbol :=
  naming (·.intern name)

def text (symbol : Symbol) : Use String :=
  reading (·.text? symbol)

def entry (h : Handle) : Use Entry :=
  look (·.get h)

/-! ### Requests -/

def primitive (kind : Kind) : Use Handle :=
  look fun s => .ok ⟨s.id, kind.index⟩

/-- The class of a name. The memo is asked for its symbol. -/
def reference (name : String) : Use Handle := do
  let symbol ← intern name
  let s ← get
  match s.references.lookup symbol with
  | some h => return h
  | none =>
    set (s.addReference symbol)
    return s.next

def arrayOf (component : Handle) : Use Handle := fun s p =>
  match s.arrays.lookup component with
  | some h => some (.ok (h, s), p)
  | none =>
    match he : s.get component with
    | .error f => some (.error f, p)
    | .ok e => do
      let ((display, binary), p) ← e.arrayNames? p
      return (.ok (s.next, s.addArray component display binary he), p)

def primitiveArray (kind : Kind) : Use Handle := do
  arrayOf (← primitive kind)

def withDimensions (element : Handle) : Nat → Use Handle
  | 0 => return element
  | n + 1 => do withDimensions (← arrayOf element) n

def element : Element → Use Handle
  | .primitive kind => primitive kind
  | .reference name => reference name

def resolve (t : TypeLiteral) : Use Handle := do
  withDimensions (← element t.element) t.dimensions

def forName (text : String) : Use Handle :=
  match TypeLiteral.parse text with
  | .ok t => resolve t
  | .error cause => throw (.invalidTypeLiteral text cause)

/-! ### Questions -/

def name (h : Handle) : Use Symbol := do
  let e ← entry h
  naming fun p => e.name p

def binaryName (h : Handle) : Use Symbol := do
  let e ← entry h
  naming fun p => e.binaryName p

def descriptor (h : Handle) : Use Descriptor := do
  let e ← entry h
  reading fun p => e.read? p

def componentType (h : Handle) : Use (Option Handle) := do
  return (← entry h).component?

def elementType (h : Handle) : Use Handle := do
  let (bottom, _) ← look fun s => s.unwrap h
  return bottom

def dimensions (h : Handle) : Use Nat := do
  let (_, levels) ← look fun s => s.unwrap h
  return levels

def defaultValue (h : Handle) : Use Value := do
  return (← entry (← elementType h)).scalarDefault

def slotDefault (h : Handle) : Use (Option Value) := do
  match ← componentType h with
  | none => return none
  | some component => return some (← entry component).scalarDefault

def inspect (h : Handle) : Query → Use Answer
  | .descriptor => .descriptor <$> descriptor h
  | .name => .text <$> (name h >>= text)
  | .binaryName => .text <$> (binaryName h >>= text)
  | .isArray => (.flag ·.isArray) <$> entry h
  | .isPrimitive => (.flag ·.isPrimitive) <$> entry h
  | .component => .component <$> componentType h
  | .element => .handle <$> elementType h
  | .dimensions => .number <$> dimensions h
  | .defaultValue => .value <$> defaultValue h
  | .slotDefault => .slot <$> slotDefault h

/-- A text that is no name yet is compared with a name and not made. -/
def isNamed (h : Handle) (text : String) : Use Bool := do
  let symbol ← name h
  reading fun p => some (p.spells symbol text)

def judge (source target : Handle) : Use Judgement := fun s p => do
  return ((← s.judge p source target).map (·, s), p)

def isAssignable (H : Hierarchy) (source target : Handle) : Use Bool := do
  return (← judge source target).answer H

/-- A failure that tells two names. It is made of their symbols, which are read last. -/
def fail {α : Type} (failure : String → String → Failure) (first second : Use Symbol) : Use α := do
  let first ← first
  let second ← second
  throw (failure (← text first) (← text second))

def checkedCast (H : Hierarchy) (source target : Handle) : Use Handle := do
  if ← isAssignable H source target then return target
  else fail .classCast (binaryName source) (binaryName target)

def checkStore (H : Hierarchy) (array value : Handle) : Use Unit := do
  match ← componentType array with
  | none => throw (.notAnArray (← text (← name array)))
  | some component =>
    if ← isAssignable H value component then return ()
    else fail .arrayStore (name value) (name component)

end Use

/-! ### Calls -/

/-- The calls that are made one after another. -/
inductive Access where
  | primitive (kind : Kind)
  | primitiveArray (kind : Kind)
  | reference (name : String)
  | arrayOf (component : Handle)
  | withDimensions (element : Handle) (n : Nat)
  | resolve (t : TypeLiteral)
  | forName (text : String)
  | inspect (query : Query) (handle : Handle)
  | isNamed (handle : Handle) (text : String)
  | assignable (source target : Handle) (H : Hierarchy)
  | checkedCast (source target : Handle) (H : Hierarchy)
  | checkStore (array value : Handle) (H : Hierarchy)
  | count

namespace Access

def call : Access → Call Handle Hierarchy
  | primitive kind => .primitive kind
  | primitiveArray kind => .primitiveArray kind
  | reference name => .reference name
  | arrayOf component => .arrayOf component
  | withDimensions element n => .withDimensions element n
  | resolve t => .resolve t
  | forName text => .forName text
  | inspect query h => .inspect query h
  | isNamed h text => .isNamed h text
  | assignable source target H => .assignable source target H
  | checkedCast source target H => .checkedCast source target H
  | checkStore array value H => .checkStore array value H
  | count => .count

def perform : Access → Use Answer
  | primitive kind => .handle <$> Use.primitive kind
  | primitiveArray kind => .handle <$> Use.primitiveArray kind
  | reference name => .handle <$> Use.reference name
  | arrayOf component => .handle <$> Use.arrayOf component
  | withDimensions element n => .handle <$> Use.withDimensions element n
  | resolve t => .handle <$> Use.resolve t
  | forName text => .handle <$> Use.forName text
  | inspect query h => Use.inspect h query
  | isNamed h text => .flag <$> Use.isNamed h text
  | assignable source target H =>
    (fun j => .assignable (j.answer H) j.questions) <$> Use.judge source target
  | checkedCast source target H => .handle <$> Use.checkedCast H source target
  | checkStore array value H => (fun _ => .nothing) <$> Use.checkStore H array value
  | count => Use.look fun s => .ok (.number s.entries.size)

end Access

/-! ### Fresh stores -/

/-- The store with the array class of a primitive kind. -/
def Store.addPrimitiveArray : Store × NamePool → Kind → Option (Store × NamePool)
  | (s, p), kind => do
    match ← Use.primitiveArray kind s p with
    | (.ok (_, s), p) => return (s, p)
    | (.error _, p) => return (s, p)

def Store.preload (s : Store) (p : NamePool) : Option (Store × NamePool) :=
  Kind.all.foldlM addPrimitiveArray (s, p)

def Store.fresh (id : Nat) (config : Config) (p : NamePool) : Option (Store × NamePool) :=
  if config.preload then (bare id).preload p else some (bare id, p)

/-! ### Processes -/

/-- What happens in a process. A name may be made outside the calls, as hierarchies do, and a
reader of type literals that makes the name of an element before it comes to a fault. -/
inductive Event where
  | intern (name : String)
  | newRegistry (config : Config)
  | access (registry : Nat) (a : Access)

structure Process where
  pool : NamePool
  stores : List Store

namespace Process

def addRegistry (pr : Process) (config : Config) : Option Process := do
  let (s, pool) ← Store.fresh pr.stores.length config pr.pool
  return ⟨pool, pr.stores ++ [s]⟩

def start (configs : List Config) : Option Process :=
  configs.foldlM addRegistry ⟨.empty, []⟩

/-- The reply to an event and the process after it. A name made outside the registries is
replied to by none of them. -/
def respond (pr : Process) : Event → Option (Option Reply × Process)
  | .intern name => some (none, { pr with pool := (pr.pool.intern name).2 })
  | .newRegistry config => do
    return (some (.newRegistry pr.stores.length), ← pr.addRegistry config)
  | .access i a =>
    match pr.stores[i]? with
    | none => some (some .undefined, pr)
    | some s => do
      match ← a.perform s pr.pool with
      | (.ok (a, s), pool) => return (some (.answer a), ⟨pool, pr.stores.set i s⟩)
      | (.error f, pool) => return (some (.failure f), { pr with pool })

/-- The replies to the events. -/
def replies (pr : Process) : List Event → Option (List Reply)
  | [] => some []
  | first :: rest => do
    let (reply, pr) ← pr.respond first
    return reply.toList ++ (← pr.replies rest)

end Process

end ArrayTypes.Interned
