import ArrayTypes.NamePool

/-! Threads that share an interner. To make a name is two atomic steps: the first looks its
text up, and after a miss the second interns it. Between the two any other thread may run.
To read a name and to compare it with a text are one step each. -/

namespace ArrayTypes

/-- Tables in which texts have names, with what can be asked of them. -/
structure Interner (Table Name : Type) where
  empty : Table
  find? : Table → String → Option Name
  /-- The name of a text, and the table after the text was added if it was missing. -/
  intern : Table → String → Name × Table
  text? : Table → Name → Option String

/-- Pools are such tables, and a symbol is a name in its pool. -/
def NamePool.interner : Interner NamePool Symbol where
  empty := .empty
  find? := find?
  intern := intern
  text? := text?

variable {ι Table Name : Type}

namespace Interner

/-- What is taken for granted of an interner. -/
structure Lawful (I : Interner Table Name) : Prop where
  find?_empty (text : String) : I.find? I.empty text = none
  /-- A text that is there is not added again. -/
  intern_of_find? {t : Table} {text : String} {x : Name} :
    I.find? t text = some x → I.intern t text = (x, t)
  /-- A text that is missing gets a name, and no other text gets or loses one. -/
  find?_intern {t : Table} {text : String} : I.find? t text = none → ∀ s,
    I.find? (I.intern t text).2 s = if s = text then some (I.intern t text).1 else I.find? t s
  text?_of_find? {t : Table} {text : String} {x : Name} :
    I.find? t text = some x → I.text? t x = some text

/-- Comparison of a name with a text, which is not added. -/
def spells [DecidableEq Name] (I : Interner Table Name) (t : Table) (x : Name)
    (text : String) : Bool :=
  I.find? t text = some x

end Interner

/-- An atomic step of a thread. -/
inductive NameStep (Name : Type) where
  /-- The first step towards a name. -/
  | look (text : String)
  /-- The second step, after a miss. -/
  | add
  | read (name : Name)
  | compare (name : Name) (text : String)
  deriving DecidableEq, Repr

/-- What a thread is told. -/
inductive NameAnswer (Name : Type) where
  | made (text : String) (name : Name)
  /-- There is no text if the table lacks the name. -/
  | read (name : Name) (text : Option String)
  | compared (name : Name) (text : String) (same : Bool)
  deriving DecidableEq, Repr

structure NameThread (Name : Type) where
  /-- The text that the thread has looked for and missed. -/
  missed : Option String
  told : List (NameAnswer Name)
  deriving DecidableEq, Repr

namespace NameThread

def start : NameThread Name := ⟨none, []⟩

/-- The thread has its answer. -/
def tell (h : NameThread Name) (a : NameAnswer Name) : NameThread Name :=
  ⟨none, h.told ++ [a]⟩

/-- A step of a thread. After a miss a thread can only add, and no other thread can; a step
that the thread is not at changes nothing. -/
def step [DecidableEq Name] (I : Interner Table Name) (t : Table) (h : NameThread Name)
    (s : NameStep Name) : Table × NameThread Name :=
  match h.missed, s with
  | none, .look text =>
    match I.find? t text with
    | some x => (t, h.tell (.made text x))
    | none => (t, { h with missed := some text })
  | some text, .add =>
    let (x, t') := I.intern t text
    (t', h.tell (.made text x))
  | none, .read x => (t, h.tell (.read x (I.text? t x)))
  | none, .compare x text => (t, h.tell (.compared x text (I.spells t x text)))
  | _, _ => (t, h)

end NameThread

/-- A table with the threads that use it. -/
structure NameCrew (ι Table Name : Type) where
  table : Table
  threads : ι → NameThread Name

namespace NameCrew

/-- The threads before their first steps. -/
def start (I : Interner Table Name) : NameCrew ι Table Name :=
  ⟨I.empty, fun _ => .start⟩

/-- Some thread was given the name for the text. -/
def Made (c : NameCrew ι Table Name) (text : String) (x : Name) : Prop :=
  ∃ i, .made text x ∈ (c.threads i).told

variable [DecidableEq ι]

/-- The crew with thread `i` changed. -/
def put (c : NameCrew ι Table Name) (i : ι) (h : NameThread Name) : NameCrew ι Table Name :=
  { c with threads := fun j => if j = i then h else c.threads j }

def tell (c : NameCrew ι Table Name) (i : ι) (a : NameAnswer Name) : NameCrew ι Table Name :=
  c.put i ((c.threads i).tell a)

variable [DecidableEq Name] (I : Interner Table Name)

/-- A step of thread `i`. -/
def step (c : NameCrew ι Table Name) (i : ι) (s : NameStep Name) : NameCrew ι Table Name :=
  let (table, h) := (c.threads i).step I c.table s
  { c with table }.put i h

/-- The run of an interleaving, which lists the steps with their threads. -/
def run (c : NameCrew ι Table Name) (steps : List (ι × NameStep Name)) :
    NameCrew ι Table Name :=
  steps.foldl (fun c (i, s) => c.step I i s) c

end NameCrew

end ArrayTypes
