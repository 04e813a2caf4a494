import ArrayTypes.Registry.Chain

/-! Threads that share a registry. A request is two atomic steps: the first looks in
the memo, and after a miss the second looks again and creates what is missing.
Between the two any other thread may run. -/

namespace ArrayTypes

/-- Where an array request takes its component. -/
inductive Source where
  | handle (h : Handle)
  /-- What the `i`-th request of the same thread returned. -/
  | result (i : Nat)
  deriving DecidableEq, Repr

structure Thread where
  pending : List (Request Source)
  results : List Handle
  /-- The first pending request has looked in the memo and missed. -/
  missed : Bool
  deriving DecidableEq, Repr

namespace Source

def handle? (results : List Handle) : Source → Option Handle
  | handle h => some h
  | result i => results[i]?

end Source

namespace Request

def handles? (results : List Handle) : Request Source → Option (Request Handle)
  | reference name => some (reference name)
  | arrayOf component => (component.handle? results).map arrayOf

end Request

namespace Thread

def start (program : List (Request Source)) : Thread := ⟨program, [], false⟩

/-- A request that fails ends its thread. -/
def stop (t : Thread) : Thread := { t with pending := [], missed := false }

/-- The first pending request has its handle. -/
def receive (t : Thread) (h : Handle) : Thread :=
  ⟨t.pending.tail, t.results ++ [h], false⟩

/-- The next atomic step of a thread. -/
def step (r : Registry) (t : Thread) : Registry × Thread :=
  match t.pending.head? with
  | none => (r, t)
  | some request =>
    match request.handles? t.results with
    | none => (r, t.stop)
    | some request =>
      if t.missed then
        match r.obtain request with
        | .ok (h, r') => (r', t.receive h)
        | .error _ => (r, t.stop)
      else
        match r.lookup? request with
        | some h => (r, t.receive h)
        | none => (r, { t with missed := true })

end Thread

/-- A registry with the threads that use it. -/
structure Crew where
  registry : Registry
  threads : List Thread

namespace Crew

/-- A step of the `i`-th thread. -/
def step (c : Crew) (i : Nat) : Crew :=
  match c.threads[i]? with
  | none => c
  | some t =>
    let (registry, t') := t.step c.registry
    ⟨registry, c.threads.set i t'⟩

/-- The run of a schedule, which names the thread of every step. -/
def run (c : Crew) (schedule : List Nat) : Crew :=
  schedule.foldl step c

/-- The threads in turn, as often as the longest of them can need. -/
def inTurn (c : Crew) : List Nat :=
  let longest := (c.threads.map fun t => t.pending.length).foldl max 0
  (List.replicate (2 * longest) (List.range c.threads.length)).flatten

def start (registry : Registry) (programs : List (List (Request Source))) : Crew :=
  ⟨registry, programs.map Thread.start⟩

/-- The programs run to their ends. -/
def finish (registry : Registry) (programs : List (List (Request Source))) : Crew :=
  let c := start registry programs
  c.run c.inTurn

end Crew

namespace Registry

/-- The array requests that put `n` levels around a source, when `made` requests of the
program go before them, and where the outermost handle is found. -/
def levelRequests (source : Source) (made : Nat) : Nat → List (Request Source) × Source
  | 0 => ([], source)
  | n + 1 =>
    let (requests, outermost) := levelRequests (.result made) (made + 1) n
    (.arrayOf source :: requests, outermost)

/-- The requests that resolve a type, and where its handle is found. -/
def typeRequests (r : Registry) (t : TypeLiteral) (made : Nat) : List (Request Source) × Source :=
  match t.element with
  | .primitive kind => levelRequests (.handle (r.primitive kind)) made t.dimensions
  | .reference name =>
    let (requests, outermost) := levelRequests (.result made) (made + 1) t.dimensions
    (.reference name :: requests, outermost)

/-- The program that resolves one text after another, and where the handle of each is found;
a text that is no type literal requests nothing. -/
def textRequests (r : Registry) :
    List String → Nat → List (Request Source) × List (Option Source)
  | [], _ => ([], [])
  | text :: texts, made =>
    match TypeLiteral.parse text with
    | .error _ =>
      let (requests, sources) := r.textRequests texts made
      (requests, none :: sources)
    | .ok t =>
      let (own, source) := r.typeRequests t made
      let (requests, sources) := r.textRequests texts (made + own.length)
      (own ++ requests, some source :: sources)

/-- The program that requests, for each of `rounds` numbered classes, the class, its array
class, and the array class of that. -/
def roundRequests (name : String) (rounds : Nat) : List (Request Source) :=
  (List.range rounds).flatMap fun i =>
    [.reference (name ++ toString i), .arrayOf (.result (3 * i)), .arrayOf (.result (3 * i + 1))]

end Registry

/-- Whether all members of a list are equal. -/
def allEqual {α : Type} [DecidableEq α] : List α → Bool
  | [] => true
  | a :: as => as.all (· = a)

namespace Registry

/-- Threads that resolve the same texts, each starting with another one. The answer tells
whether they all found the same handles. -/
def resolveTogether (r : Registry) (threads : Nat) (texts : List String) : Bool × Registry :=
  let programs := (List.range threads).map fun i => r.textRequests (texts.rotateLeft i) 0
  let crew := Crew.finish r (programs.map (·.1))
  let found := (List.range threads).map fun i =>
    let sources := ((programs[i]?).map (·.2)).getD []
    let results := ((crew.threads[i]?).map (·.results)).getD []
    (sources.map fun source => source.bind (·.handle? results)).rotateRight i
  (allEqual found, crew.registry)

/-- Threads that run the same program of numbered classes. -/
def raceTogether (r : Registry) (threads rounds : Nat) (name : String) : Bool × Registry :=
  let crew := Crew.finish r (List.replicate threads (roundRequests name rounds))
  (allEqual (crew.threads.map (·.results)), crew.registry)

end Registry

end ArrayTypes
