import ArrayTypes.NamePool
import ArrayTypes.Session

/-! Registries as a process keeps them. A name is a symbol there, of one pool that all the
registries share. What a store holds can be followed without the pool; only the names of its
entries are read and made there. -/

namespace ArrayTypes.Interned

/-- A descriptor with symbols for its names. A primitive's name is no part of it, but made
whenever it is asked for. -/
inductive Entry where
  | primitive (kind : Kind)
  | array (component : Handle) (name binaryName : Symbol)
  | reference (name : Symbol)
  deriving DecidableEq, Repr

namespace Entry

/-- The descriptor with the texts of its names, if the pool has them. -/
def read? (p : NamePool) : Entry → Option Descriptor
  | primitive kind => some (.primitive kind)
  | array component name binaryName => do
    return .array component (← p.text? name) (← p.text? binaryName)
  | reference name => do return .reference (← p.text? name)

def name (p : NamePool) : Entry → Symbol × NamePool
  | primitive kind => p.intern kind.name
  | array _ name _ => (name, p)
  | reference name => (name, p)

def binaryName (p : NamePool) : Entry → Symbol × NamePool
  | array _ _ binaryName => (binaryName, p)
  | e => e.name p

def elementCode? (p : NamePool) : Entry → Option String
  | primitive kind => some kind.code.toString
  | array _ _ binaryName => p.text? binaryName
  | reference name => do return "L" ++ (← p.text? name) ++ ";"

/-- The two names of the array class of the entry. The display name is made before the
binary name. -/
def arrayNames? (p : NamePool) (e : Entry) : Option ((Symbol × Symbol) × NamePool) := do
  let (own, p) := e.name p
  let (display, p) := p.intern ((← p.text? own) ++ "[]")
  let (binary, p) := p.intern ("[" ++ (← e.elementCode? p))
  return ((display, binary), p)

def component? : Entry → Option Handle
  | array component _ _ => some component
  | _ => none

def isArray : Entry → Bool
  | array _ _ _ => true
  | _ => false

def isPrimitive : Entry → Bool
  | primitive _ => true
  | _ => false

def isReferenceTyped : Entry → Bool
  | primitive _ => false
  | _ => true

def scalarDefault : Entry → Value
  | primitive kind => .zero kind
  | _ => .null

end Entry

/-- The arena of a registry with symbols for names. As there, an array's component has a
smaller slot than the array. -/
structure Store where
  id : Nat
  entries : Array Entry
  arrays : List (Handle × Handle)
  references : List (Symbol × Handle)
  descending : ∀ (slot : Nat) (e : Entry) (component : Handle),
    entries[slot]? = some e → e.component? = some component → component.slot < slot

namespace Store

def bare (id : Nat) : Store where
  id
  entries := (Kind.all.map Entry.primitive).toArray
  arrays := []
  references := []
  descending := by
    intro slot e component he hc
    have hmem : e ∈ Kind.all.map Entry.primitive :=
      List.mem_of_getElem? (by simpa using he)
    obtain ⟨kind, -, rfl⟩ := List.mem_map.1 hmem
    simp [Entry.component?] at hc

def next (s : Store) : Handle :=
  ⟨s.id, s.entries.size⟩

def get (s : Store) (h : Handle) : Except Failure Entry :=
  match if h.owner = s.id then s.entries[h.slot]? else none with
  | some e => .ok e
  | none => .error (.foreignHandle h s.id)

theorem getElem?_of_get {s : Store} {h : Handle} {e : Entry} (he : s.get h = .ok e) :
    s.entries[h.slot]? = some e := by
  by_cases ho : h.owner = s.id
  · cases hslot : s.entries[h.slot]? <;> simp_all [get]
  · simp [get, ho] at he

theorem slot_lt_of_get {s : Store} {h c : Handle} {e : Entry} (he : s.get h = .ok e)
    (hc : e.component? = some c) : c.slot < h.slot :=
  s.descending h.slot e c (getElem?_of_get he) hc

theorem descending_push (s : Store) {e : Entry}
    (he : ∀ c, e.component? = some c → c.slot < s.entries.size)
    (slot : Nat) (e' : Entry) (c : Handle)
    (he' : (s.entries.push e)[slot]? = some e') (hc : e'.component? = some c) : c.slot < slot := by
  rw [Array.getElem?_push] at he'
  split at he'
  next h =>
    cases he'
    exact h ▸ he c hc
  next => exact s.descending slot e' c he' hc

/-- The store with the class of a symbol as one more entry. -/
def addReference (s : Store) (symbol : Symbol) : Store where
  id := s.id
  entries := s.entries.push (.reference symbol)
  arrays := s.arrays
  references := (symbol, s.next) :: s.references
  descending := s.descending_push (by simp [Entry.component?])

/-- The store with the array class of `component`, of the given names, as one more entry. -/
def addArray (s : Store) (component : Handle) (display binary : Symbol) {e : Entry}
    (he : s.get component = .ok e) : Store where
  id := s.id
  entries := s.entries.push (.array component display binary)
  arrays := (component, s.next) :: s.arrays
  references := s.references
  descending := s.descending_push fun c hc => by
    cases hc
    exact (Array.getElem?_eq_some_iff.1 (getElem?_of_get he)).1

/-- The end of the component chain and the number of array levels above it. -/
def unwrap (s : Store) (h : Handle) : Except Failure (Handle × Nat) :=
  match _ : s.get h with
  | .error f => .error f
  | .ok e =>
    match _ : e.component? with
    | none => .ok (h, 0)
    | some component =>
      match s.unwrap component with
      | .ok (bottom, levels) => .ok (bottom, levels + 1)
      | .error f => .error f
termination_by h.slot
decreasing_by exact slot_lt_of_get ‹_› ‹_›

/-- The check of assignability, which makes no names. What a hierarchy is asked about it reads
in the pool; nothing comes of it if the pool lacks a symbol. -/
def judge (s : Store) (p : NamePool) (source target : Handle) : Option (Except Failure Judgement) :=
  if source = target then some (.ok (.known true))
  else
    match _ : s.get source, s.get target with
    | .error f, _ => some (.error f)
    | .ok _, .error f => some (.error f)
    | .ok (.array c _ _), .ok (.array d _ _) =>
      match s.get c, s.get d with
      | .error f, _ => some (.error f)
      | .ok _, .error f => some (.error f)
      | .ok below, .ok belowTarget =>
        if below.isReferenceTyped && belowTarget.isReferenceTyped then s.judge p c d
        else some (.ok (.known (c = d)))
    | .ok (.reference sub), .ok (.reference super) => do
      return .ok (.asks (.subclass (← p.text? sub) (← p.text? super)))
    | .ok (.array _ _ _), .ok (.reference name) => do
      return .ok (.asks (.arraySupertype (← p.text? name)))
    | .ok _, .ok _ => some (.ok (.known false))
termination_by source.slot
decreasing_by exact slot_lt_of_get ‹_› rfl

end Store

end ArrayTypes.Interned
