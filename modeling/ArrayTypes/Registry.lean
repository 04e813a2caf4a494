import ArrayTypes.Failure

/-! The registry of descriptors: an arena that only grows, with one memo for array
classes and one for reference classes. The two elementary requests look for a
descriptor and create it if it is missing. -/

namespace ArrayTypes

/-- Settings of a fresh registry. The capacity is a hint and shows nowhere else. -/
structure Config where
  preload : Bool := true
  capacity : Nat := 64
  deriving DecidableEq, Repr

/-- A descriptor's slot is its position among the entries, and an array's component always
has a smaller slot, so that following components comes to an end. -/
structure Registry where
  id : Nat
  entries : Array Descriptor
  arrays : List (Handle × Handle)
  references : List (String × Handle)
  descending : ∀ (slot : Nat) (d : Descriptor) (component : Handle),
    entries[slot]? = some d → d.component? = some component → component.slot < slot

/-- An elementary request, with components given as `ι`. -/
inductive Request (ι : Type) where
  | reference (name : String)
  | arrayOf (component : ι)
  deriving DecidableEq, Repr

namespace Registry

/-- The registry that holds the primitive kinds alone, in order. -/
def bare (id : Nat) : Registry where
  id
  entries := (Kind.all.map Descriptor.primitive).toArray
  arrays := []
  references := []
  descending := by
    intro slot d component hd hc
    have hmem : d ∈ Kind.all.map Descriptor.primitive :=
      List.mem_of_getElem? (by simpa using hd)
    obtain ⟨kind, -, rfl⟩ := List.mem_map.1 hmem
    simp [Descriptor.component?] at hc

/-- The number of descriptors, the primitives included. -/
def count (r : Registry) : Nat :=
  r.entries.size

/-- The handle of the descriptor created next. -/
def next (r : Registry) : Handle :=
  ⟨r.id, r.entries.size⟩

/-! ### Looking up -/

def find? (r : Registry) (h : Handle) : Option Descriptor :=
  if h.owner = r.id then r.entries[h.slot]? else none

def get (r : Registry) (h : Handle) : Except Failure Descriptor :=
  match r.find? h with
  | some d => .ok d
  | none => .error (.foreignHandle h r.id)

theorem get_eq_ok_iff {r : Registry} {h : Handle} {d : Descriptor} :
    r.get h = .ok d ↔ h.owner = r.id ∧ r.entries[h.slot]? = some d := by
  by_cases ho : h.owner = r.id
  · cases hd : r.entries[h.slot]? <;> simp [get, find?, ho, hd]
  · simp [get, find?, ho]

theorem slot_lt_of_get {r : Registry} {h c : Handle} {d : Descriptor} (hd : r.get h = .ok d)
    (hc : d.component? = some c) : c.slot < h.slot :=
  r.descending h.slot d c (get_eq_ok_iff.1 hd).2 hc

theorem slot_lt_count_of_get {r : Registry} {h : Handle} {d : Descriptor} (hd : r.get h = .ok d) :
    h.slot < r.count :=
  (Array.getElem?_eq_some_iff.1 (get_eq_ok_iff.1 hd).2).1

/-- The memo's answer to a request, if the descriptor exists. Nothing is looked up for it, so
a handle of another registry is merely not found. -/
def lookup? (r : Registry) : Request Handle → Option Handle
  | .reference name => r.references.lookup name
  | .arrayOf component => r.arrays.lookup component

/-! ### Creating -/

theorem descending_push (r : Registry) {d : Descriptor}
    (hd : ∀ c, d.component? = some c → c.slot < r.count)
    (slot : Nat) (e : Descriptor) (c : Handle)
    (he : (r.entries.push d)[slot]? = some e) (hc : e.component? = some c) : c.slot < slot := by
  rw [Array.getElem?_push] at he
  split at he
  next h =>
    cases he
    exact h ▸ hd c hc
  next => exact r.descending slot e c he hc

/-- The registry with the class `name` as one more entry. -/
def addReference (r : Registry) (name : String) : Registry where
  id := r.id
  entries := r.entries.push (.reference name)
  arrays := r.arrays
  references := (name, r.next) :: r.references
  descending := r.descending_push (by simp [Descriptor.component?])

/-- The registry with the array class of `component` as one more entry. -/
def addArray (r : Registry) (component : Handle) (d : Descriptor) (hd : r.get component = .ok d) :
    Registry where
  id := r.id
  entries := r.entries.push (d.arrayOf component)
  arrays := (component, r.next) :: r.arrays
  references := r.references
  descending := r.descending_push fun c hc => by
    cases hc
    exact slot_lt_count_of_get hd

@[simp] theorem count_addReference (r : Registry) (name : String) :
    (r.addReference name).count = r.count + 1 := by
  simp [count, addReference]

@[simp] theorem count_addArray (r : Registry) (component : Handle) (d : Descriptor)
    (hd : r.get component = .ok d) : (r.addArray component d hd).count = r.count + 1 := by
  simp [count, addArray]

/-- The descriptor of the class `name`, registered on first use. -/
def reference (r : Registry) (name : String) : Handle × Registry :=
  match r.lookup? (.reference name) with
  | some h => (h, r)
  | none => (r.next, r.addReference name)

/-- The array class whose elements are `component`, created on the first request. -/
def arrayOf (r : Registry) (component : Handle) : Except Failure (Handle × Registry) :=
  match r.lookup? (.arrayOf component) with
  | some h => .ok (h, r)
  | none =>
    match hd : r.get component with
    | .error e => .error e
    | .ok d => .ok (r.next, r.addArray component d hd)

/-- The request as one step: what is missing is created. -/
def obtain (r : Registry) : Request Handle → Except Failure (Handle × Registry)
  | .reference name => .ok (r.reference name)
  | .arrayOf component => r.arrayOf component

/-- The registry that a call leaves behind: a failed call changes nothing. -/
def after {α : Type} (r : Registry) : Except Failure (α × Registry) → Registry
  | .ok (_, r') => r'
  | .error _ => r

/-- The registry after a list of requests. -/
def serve (r : Registry) (requests : List (Request Handle)) : Registry :=
  requests.foldl (fun r q => r.after (r.obtain q)) r

end Registry

end ArrayTypes
