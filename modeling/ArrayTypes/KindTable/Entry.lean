import ArrayTypes.KindTable.Token

/-! The entries of an attribute's list, as in `name = "int", code = 'I', width = 4`. A
comma stands between two entries and may stand after the last. -/

namespace ArrayTypes.KindTable

/-- The key of an entry: names joined by double colons, which may also stand before
the first. -/
structure Path where
  isGlobal : Bool
  segments : List String
  deriving DecidableEq, Repr

/-- The name that is the whole path. -/
def Path.name? : Path → Option String
  | ⟨false, [name]⟩ => some name
  | _ => none

/-- What stands after a key. -/
inductive Assignment where
  /-- No equals sign. -/
  | missing
  /-- An equals sign, with which the list ends. -/
  | unfinished
  /-- An equals sign and a literal, which is `other` for any other token. -/
  | literal (value : Literal)
  deriving DecidableEq, Repr

structure Entry where
  key : Path
  value : Assignment
  deriving DecidableEq, Repr

/-- Why a list cannot be read on. -/
inductive Fault where
  | expectedEntry
  | unexpectedLiteral
  | unexpectedToken
  /-- A double colon has no name after it, and the list may end there. -/
  | expectedSegment (atEnd : Bool)
  | expectedComma
  deriving DecidableEq, Repr

/-- What is put before a message where the list ends. -/
def endNotice (atEnd : Bool) : String :=
  if atEnd then "unexpected end of input, " else ""

def Fault.message : Fault → String
  | expectedEntry => endNotice true ++ "expected nested attribute"
  | unexpectedLiteral => "unexpected literal in nested attribute, expected ident"
  | unexpectedToken => "unexpected token in nested attribute, expected ident"
  | expectedSegment atEnd => endNotice atEnd ++ "expected ident"
  | expectedComma => "expected `,`"

/-- The entries that can be read, and the fault after them if they are not all. -/
structure EntryList where
  entries : List Entry
  fault? : Option Fault
  deriving DecidableEq, Repr

namespace EntryList

def cons (entry : Entry) (list : EntryList) : EntryList :=
  ⟨entry :: list.entries, list.fault?⟩

/-- The segments of a path after its first, and the tokens after them. -/
def readSegments : List Token → Except Fault (List String × List Token)
  | .colons :: .name text :: tokens => do
    let (segments, rest) ← readSegments tokens
    return (text :: segments, rest)
  | .colons :: tokens => throw (.expectedSegment tokens.isEmpty)
  | tokens => return ([], tokens)

theorem length_le_of_readSegments {tokens rest : List Token} {segments : List String}
    (h : readSegments tokens = .ok (segments, rest)) : rest.length ≤ tokens.length := by
  fun_induction readSegments tokens generalizing segments with
  | case1 text tokens ih =>
    cases hr : readSegments tokens with
    | error => rw [hr] at h; cases h
    | ok found =>
      rw [hr] at h
      cases h
      exact Nat.le_succ_of_le (Nat.le_succ_of_le (ih hr))
  | case2 => cases h
  | case3 =>
    cases h
    exact Nat.le_refl _

/-- The path that starts with its first segment, and the tokens after it. -/
def readPath (isGlobal : Bool) : List Token → Except Fault (Path × List Token)
  | .name text :: tokens => do
    let (segments, rest) ← readSegments tokens
    return (⟨isGlobal, text :: segments⟩, rest)
  | [] => throw .expectedEntry
  | .literal _ :: _ => throw .unexpectedLiteral
  | _ => throw .unexpectedToken

theorem length_lt_of_readPath {isGlobal : Bool} {tokens rest : List Token} {path : Path}
    (h : readPath isGlobal tokens = .ok (path, rest)) : rest.length < tokens.length := by
  unfold readPath at h
  split at h
  next text tokens =>
    cases hr : readSegments tokens with
    | error => rw [hr] at h; cases h
    | ok found =>
      rw [hr] at h
      cases h
      exact Nat.lt_succ_of_le (length_le_of_readSegments hr)
  next => cases h
  next => cases h
  next => cases h

def readKey : List Token → Except Fault (Path × List Token)
  | .colons :: tokens => readPath true tokens
  | tokens => readPath false tokens

theorem length_lt_of_readKey {tokens rest : List Token} {path : Path}
    (h : readKey tokens = .ok (path, rest)) : rest.length < tokens.length := by
  unfold readKey at h
  split at h
  next => exact Nat.lt_succ_of_lt (length_lt_of_readPath h)
  next => exact length_lt_of_readPath h

/-- What stands after a key, and the tokens after that. -/
def readAssignment : List Token → Assignment × List Token
  | [.equals] => (.unfinished, [])
  | .equals :: .literal value :: tokens => (.literal value, tokens)
  | .equals :: tokens => (.literal .other, tokens)
  | tokens => (.missing, tokens)

theorem length_readAssignment_le (tokens : List Token) :
    (readAssignment tokens).2.length ≤ tokens.length := by
  unfold readAssignment
  split
  · exact Nat.zero_le _
  · exact Nat.le_succ_of_le (Nat.le_succ _)
  · exact Nat.le_succ _
  · exact Nat.le_refl _

def ofTokens (tokens : List Token) : EntryList :=
  if tokens = [] then ⟨[], none⟩
  else
    match _ : readKey tokens with
    | .error fault => ⟨[], some fault⟩
    | .ok (key, rest) =>
      let value := (readAssignment rest).1
      match _ : (readAssignment rest).2 with
      | [] => ⟨[⟨key, value⟩], none⟩
      | .comma :: following => (ofTokens following).cons ⟨key, value⟩
      | _ => ⟨[⟨key, value⟩], some .expectedComma⟩
termination_by tokens.length
decreasing_by
  have hkey := length_lt_of_readKey ‹_›
  have hle := length_readAssignment_le rest
  simp only [‹(readAssignment rest).2 = _›, List.length_cons] at hle
  omega

def ofText (text : String) : EntryList :=
  ofTokens (Token.all text.toList)

end EntryList

end ArrayTypes.KindTable
