import ArrayTypes.Registry
import ArrayTypes.TypeLiteral.Reader

/-! Requests made of the two elementary ones: whole types, the texts that spell
them, and the arrays a fresh registry starts with. -/

namespace ArrayTypes.Registry

/-- The primitives are never created: their slots are fixed. -/
def primitive (r : Registry) (kind : Kind) : Handle :=
  ⟨r.id, kind.index⟩

def primitiveArray (r : Registry) (kind : Kind) : Except Failure (Handle × Registry) :=
  r.arrayOf (r.primitive kind)

/-- The array class taken `n` times. -/
def withDimensions (r : Registry) (element : Handle) : Nat → Except Failure (Handle × Registry)
  | 0 => .ok (element, r)
  | n + 1 =>
    match r.arrayOf element with
    | .ok (h, r') => r'.withDimensions h n
    | .error e => .error e

def element (r : Registry) : Element → Handle × Registry
  | .primitive kind => (r.primitive kind, r)
  | .reference name => r.reference name

def resolve (r : Registry) (t : TypeLiteral) : Except Failure (Handle × Registry) :=
  let (bottom, r') := r.element t.element
  r'.withDimensions bottom t.dimensions

/-- A text that is no type literal creates nothing. -/
def forName (r : Registry) (text : String) : Except Failure (Handle × Registry) :=
  match TypeLiteral.parse text with
  | .ok t => r.resolve t
  | .error cause => .error (.invalidTypeLiteral text cause)

def preload (r : Registry) : Registry :=
  Kind.all.foldl (fun r kind => r.after (r.primitiveArray kind)) r

/-- A fresh registry, with the eight primitive arrays if they are preloaded. -/
def fresh (id : Nat) (config : Config) : Registry :=
  if config.preload then (bare id).preload else bare id

end ArrayTypes.Registry
